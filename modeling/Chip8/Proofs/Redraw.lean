/-
# No frame is missed

A host that draws only when the machine says that there is a new frame
(`takeDirty`) is to show what is on the screen all the same.  It does: one screen
follows another *announced* if it is marked as dirty or is the very same.  All
that draws announces what it has done: flipping a pixel, putting all pixels out,
a sprite however much of it is cut off, a load and a reset.  All else leaves the
screen alone, or is the host's own look, which takes the mark away.

So from one look to the next the screen is followed announced, by induction over
the calls in between (`announced_run`), and a look that finds no mark finds the
frame of the look before (`frame_eq_of_not_dirty`).
-/

import Mathlib.Data.List.DropRight
import Chip8.Proofs.Records

namespace Chip8

namespace Screen

variable {width height : Nat} {s t u : Screen width height}

/-- Whether a host that asks is told of the change from one screen to another, if there is one. -/
def Announced (s t : Screen width height) : Prop := t.dirty = true ∨ t = s

/-- What has not changed need not be announced. -/
theorem announced_refl (s : Screen width height) : s.Announced s := .inr rfl

/-- A mark stays until the next look. -/
theorem Announced.trans (hst : s.Announced t) (htu : t.Announced u) : s.Announced u := by
  rcases htu with hu | rfl
  · exact .inl hu
  · exact hst

/-- To flip pixels announces it, if there is any to flip. -/
theorem announced_flipAll (s : Screen width height) (points : List (Fin width × Fin height)) :
    s.Announced (s.flipAll points).1 := by
  -- The pass also carries whether a pixel was hit, which is arbitrary after the first point.
  have hpass : ∀ hit, s.Announced
      (points.foldl (fun pass p => (pass.1.flip p.1 p.2, pass.2 || pass.1.get p.1 p.2))
        (s, hit)).1 := by
    induction points generalizing s with
    | nil => exact fun _ => s.announced_refl
    | cons p points ih =>
      intro hit
      have hflip : s.Announced (s.flip p.1 p.2) := .inl (s.dirty_flip p.1 p.2)
      exact hflip.trans (ih (s.flip p.1 p.2) _)
  exact hpass false

end Screen

namespace Machine

variable {m : Machine}

/-- An instruction announces what it does to the screen. -/
theorem announced_execute (m : Machine) (ins : Instruction) :
    m.screen.Announced (m.execute ins).1.screen := by
  by_cases hk : ins.kind ∈ [.clearScreen, .draw]
  · simp only [List.mem_cons, List.not_mem_nil, or_false] at hk
    rcases hk with hk | hk
    · simp only [execute, hk]
      exact .inl rfl
    · simp only [execute, hk]
      exact m.screen.announced_flipAll _
  · exact .inr ((m.execute_footprint ins).screen hk)

/-- So does a cycle, in which nothing else touches the screen. -/
theorem announced_cycle (m : Machine) : m.screen.Announced m.cycle.1.screen := by
  rcases m.cycle_footprint with ⟨-, regs, cycles, hcycle⟩ |
    ⟨-, halted, fault, faultText, cycles, hcycle⟩
  · rw [hcycle]
    exact m.screen.announced_refl
  · rw [hcycle]
    exact (m.past m.nextInstruction).announced_execute m.nextInstruction

/-- Every call but a look announces what it has done to the screen. -/
theorem announced_serve (m : Machine) {c : HostCall} (hc : c ≠ .takeDirty) :
    m.screen.Announced (m.serve c).1.screen := by
  cases c with
  | load program =>
    rcases serve_load program with ⟨e, he⟩ | hload
    · rw [he]
      exact m.screen.announced_refl
    · rw [hload]
      exact .inl rfl
  | reset => exact .inl rfl
  | cycle => exact m.announced_cycle
  | tick => exact m.screen.announced_refl
  | keyDown code =>
    rcases serve_keyDown code with ⟨e, he⟩ | ⟨key, hkey⟩
    · rw [he]
      exact m.screen.announced_refl
    · rw [hkey]
      exact m.screen.announced_refl
  | keyUp code =>
    rcases serve_keyUp code with ⟨e, he⟩ | ⟨key, hkey⟩
    · rw [he]
      exact m.screen.announced_refl
    · rw [hkey]
      exact m.screen.announced_refl
  | releaseKeys => exact m.screen.announced_refl
  | takeDirty => exact absurd rfl hc
  | frame => exact m.screen.announced_refl
  | clearScreen => exact .inl rfl
  | togglePixel x y =>
    rcases serve_togglePixel x y with ⟨e, he⟩ | ⟨p, hp⟩
    · rw [he]
      exact m.screen.announced_refl
    · rw [hp]
      exact .inl (m.screen.dirty_flip p.1 p.2)

/-- The machine as it was right after the last look of a session, or before the session if there
was no look. -/
def lastSeen (m : Machine) (calls : List HostCall) : Machine :=
  m.run (calls.rdropWhile (· ≠ .takeDirty))

/-- What has happened to the screen since the last look is announced. -/
theorem announced_run (m : Machine) (calls : List HostCall) :
    (m.lastSeen calls).screen.Announced (m.run calls).screen := by
  -- The last look is found from the end, so the induction adds calls there.
  induction calls using List.reverseRecOn with
  | nil => exact m.screen.announced_refl
  | append_singleton calls c ih =>
    by_cases hc : c = .takeDirty
    · rw [lastSeen, List.rdropWhile_concat_neg _ _ _ (by simpa using hc)]
      exact Screen.announced_refl _
    · rw [lastSeen, List.rdropWhile_concat_pos _ _ _ (by simpa using hc), run_append]
      exact ih.trans (announced_serve _ hc)

/-- **A host that draws only what is announced shows what there is.**  Whatever a host does with a
machine, refused calls included: a look that finds no mark finds the frame that was there at the
look before, or at the beginning if there was none; and a look right after a look finds no mark. -/
theorem frame_eq_of_not_dirty (m : Machine) (calls : List HostCall) :
    (((m.run calls).serve .takeDirty).2 = .dirty false →
        ((m.run calls).serve .frame).2 = ((m.lastSeen calls).serve .frame).2) ∧
      ((m.run (calls ++ [.takeDirty])).serve .takeDirty).2 = .dirty false := by
  constructor
  · intro hlook
    have hclean : (m.run calls).screen.dirty = false := Reply.dirty.inj hlook
    rcases m.announced_run calls with hdirty | hsame
    · rw [hclean] at hdirty
      exact absurd hdirty Bool.false_ne_true
    · simp only [serve, hsame]
  · rw [run_append]
    rfl

end Machine
end Chip8
