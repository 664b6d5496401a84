/-
# The stack is a bounded list, last in, first out

The sixteen slots and the stack pointer stand for a list of addresses: those in the
slots below the pointer (`Registers.held`).  What has been taken off is still in its
slot, but above the pointer, where it is no part of the list.  A push adds to the list
at its end and a pop takes its last address off; where there is no room, or nothing to
take, the stack refuses and stays as it is.

For programs a push is a call and a pop the way back from it, and so a session with
the stack is a row of passages.  Which push a pop matches is a matter of these alone
(`Passage.exists_matching`): the last one after which calls and returns match.  The
list of a session is that of the pending pushes (`Stacks.run`), and so a pop gives what
its push was given, in sixteen bits (`stack_bounded_lifo`).
-/

import Mathlib.Data.List.Basic
import Mathlib.Data.List.Induction
import Chip8.Proofs.Subroutines

namespace Chip8

/-- Something that is asked of the stack. -/
inductive StackCall where
  /-- To keep an address, which may be any integer. -/
  | push (address : Int)
  | pop
  deriving DecidableEq, Repr

/-- What the stack answers. -/
inductive StackReply where
  | pushed
  | popped (address : UInt16)
  | refused (stop : Stop)
  deriving DecidableEq, Repr

namespace Registers

/-- The addresses on the stack, from the first that was kept to the last. -/
def held (r : Registers) : List Int :=
  (r.stack.toList.take r.sp.toNat).map fun address => (address.toNat : Int)

/-- Answers a call. -/
def serveStack (r : Registers) : StackCall → Registers × StackReply
  | .push address =>
    match r.push address with
    | (next, none) => (next, .pushed)
    | (next, some stop) => (next, .refused stop)
  | .pop =>
    match r.pop with
    | (next, .ok address) => (next, .popped address)
    | (next, .error stop) => (next, .refused stop)

/-- The registers at the end of a session with the stack. -/
def runStack (r : Registers) (calls : List StackCall) : Registers :=
  calls.foldl (fun r c => (r.serveStack c).1) r

/-- The passage of a call: a push that is not refused is a call, and a pop that is not refused the
way back from one. -/
def stackPassage (r : Registers) (c : StackCall) : Passage :=
  match c, (r.serveStack c).2 with
  | .push address, .pushed => .call address
  | .pop, .popped _ => .back
  | _, _ => .other

/-- The passages of a session. -/
def stackPassages (r : Registers) : List StackCall → List Passage
  | [] => []
  | c :: calls => r.stackPassage c :: (r.serveStack c).1.stackPassages calls

/-- The push of `address` is the one that a pop at the end of a session matches: it was not refused,
and what came after it matches among itself. -/
structure Matches (r : Registers) (calls before : List StackCall) (address : Int)
    (inner : List StackCall) : Prop where
  calls_eq : calls = before ++ .push address :: inner
  pushed : ((r.runStack before).serveStack (.push address)).2 = .pushed
  balanced : Passage.Balanced
    (((r.runStack before).serveStack (.push address)).1.stackPassages inner)

/-- A stack that holds the addresses of the pending pushes, in sixteen bits. -/
structure Stacks (r : Registers) (pending : List Int) : Prop where
  sp : 0 ≤ r.sp ∧ r.sp ≤ 16
  held : r.held = pending.map (· % 65536)

end Registers

/-! ### Matching -/

namespace Passage

/-- Two rows that match among themselves match together. -/
theorem Balanced.append {row more : List Passage} (h : Balanced row) (hmore : Balanced more) :
    Balanced (row ++ more) := by
  induction h with
  | nil => exact hmore
  | other _ ih => exact .other ih
  | nest hinner _ _ ih =>
    rw [List.append_assoc, List.cons_append]
    exact .nest hinner ih

/-- Rows of passages in which each pending call has its place: from one to the next all else
matches. -/
inductive Placed : List Passage → List Int → Prop
  | none {row : List Passage} (h : row.foldl after [] = []) : Placed row []
  | call {before inner : List Passage} {pending : List Int} (site : Int)
    (h : Placed before pending) (hinner : Balanced inner) :
    Placed (before ++ .call site :: inner) (pending ++ [site])

/-- What matches among itself may be added at the end, and the pending calls have their places
still. -/
theorem Placed.append {row more : List Passage} {pending : List Int} (h : Placed row pending)
    (hmore : Balanced more) : Placed (row ++ more) pending := by
  cases h with
  | none h => exact .none (by rw [List.foldl_append, h, hmore.foldl_after])
  | call site h hinner =>
    rw [List.append_assoc, List.cons_append]
    exact .call site h (hinner.append hmore)

/-- A return closes the last pending call, and what is in between then matches as a whole. -/
theorem Placed.step {row : List Passage} {pending : List Int} (h : Placed row pending)
    (passage : Passage) : Placed (row ++ [passage]) (passage.after pending) := by
  cases passage with
  | start => exact .none (by rw [List.foldl_append]; rfl)
  | call site => exact .call site h .nil
  | back =>
    cases h with
    | none h => exact .none (by rw [List.foldl_append, h]; rfl)
    | call site h hinner =>
      rw [after, List.dropLast_concat, List.append_assoc]
      exact h.append (.nest hinner .nil)
  | other => exact h.append (.other .nil)

/-- In every row of passages the pending calls have their places. -/
theorem placed (row : List Passage) : Placed row (row.foldl after []) := by
  induction row using List.reverseRecOn with
  | nil => exact .none rfl
  | append_singleton row passage ih =>
    rw [List.foldl_append]
    exact ih.step passage

/-- **The last pending call has its place in the row,** and what came after it matches. -/
theorem exists_matching {row : List Passage} {pending : List Int} {site : Int}
    (h : row.foldl after [] = pending ++ [site]) :
    ∃ before inner, row = before ++ .call site :: inner ∧ Balanced inner := by
  have hplaced := placed row
  generalize row.foldl after [] = all at h hplaced
  cases hplaced with
  | none => exact absurd h.symm (List.concat_ne_nil site pending)
  | call other hbefore hinner =>
    obtain ⟨-, hsite⟩ := List.append_inj' h rfl
    obtain rfl := List.singleton_inj.1 hsite
    exact ⟨_, _, rfl, hinner⟩

end Passage

/-! ### The list -/

namespace Cells

variable {α : Type} {n : Nat}

/-- The first cells and the next one are the first cells, one more of them. -/
theorem take_succ (cells : Vector α n) (k : Fin n) :
    cells.toList.take (k + 1) = cells.toList.take k ++ [get cells k] := by
  have hk : k.val < cells.toList.length := by rw [Vector.length_toList]; exact k.isLt
  rw [← List.take_append_getElem hk, Vector.getElem_toList]
  rfl

/-- To replace a cell leaves those before it. -/
theorem take_set (cells : Vector α n) (k : Fin n) (a : α) :
    (set cells k a).toList.take k = cells.toList.take k := by
  rw [set, Vector.toList_set, List.take_set_of_le (Nat.le_refl _)]

end Cells

namespace Registers

variable {r : Registers} {pending : List Int}

/-- The pointer tells how many addresses are held. -/
theorem length_held (h₀ : 0 ≤ r.sp) (h : r.sp ≤ 16) : (r.held.length : Int) = r.sp := by
  rw [held, List.length_map, List.length_take, Vector.length_toList]
  omega

/-- A push that is not refused adds the low 16 bits of its address. -/
theorem held_push (h₀ : 0 ≤ r.sp) (h : r.sp < 16) (address : Int) :
    (r.push address).1.held = r.held ++ [address % 65536] := by
  have hslot := Nibble.val_low r.sp
  have hnow : r.sp.toNat = (Nibble.low r.sp).val := by omega
  have hnext : (r.sp + 1).toNat = (Nibble.low r.sp).val + 1 := by omega
  rw [push_of_room h₀ h, held, held, hnext, hnow, Cells.take_succ, Cells.take_set,
    Cells.get_set_self, List.map_append, List.map_singleton, toNat_kept]

/-- A pop that is not refused takes the last address off and gives it. -/
theorem held_pop (h₀ : 0 < r.sp) (h : r.sp ≤ 16) :
    ∃ address, r.pop.2 = .ok address ∧ r.held = r.pop.1.held ++ [(address.toNat : Int)] := by
  have hslot := Nibble.val_low (r.sp - 1)
  have hnow : r.sp.toNat = (Nibble.low (r.sp - 1)).val + 1 := by omega
  have hnext : (r.sp - 1).toNat = (Nibble.low (r.sp - 1)).val := by omega
  rw [pop_of_pos h₀ h]
  refine ⟨_, rfl, ?_⟩
  rw [held, held, hnow, hnext, Cells.take_succ, List.map_append, List.map_singleton]

/-! ### One call -/

/-- Where there is room, a push is done. -/
theorem serveStack_push (h₀ : 0 ≤ r.sp) (h : r.sp < 16) (address : Int) :
    r.serveStack (.push address) = ((r.push address).1, .pushed) := by
  rw [serveStack, push_of_room h₀ h]

/-- On a full stack a push is refused and changes nothing. -/
theorem serveStack_push_full (h : 16 ≤ r.sp) (address : Int) :
    r.serveStack (.push address) = (r, .refused (.fault (.stackOverflow address 16))) := by
  rw [serveStack, push_full h]

/-- Where something is held, a pop gives the last of it and holds the rest. -/
theorem exists_serveStack_pop (h₀ : 0 < r.sp) (h : r.sp ≤ 16) :
    ∃ address, r.serveStack .pop = (r.pop.1, .popped address) ∧
      r.held = r.pop.1.held ++ [(address.toNat : Int)] := by
  obtain ⟨address, hpop, hheld⟩ := held_pop h₀ h
  refine ⟨address, ?_, hheld⟩
  rw [serveStack, show r.pop = (r.pop.1, .ok address) from Prod.ext rfl hpop]

/-- On an empty stack a pop is refused and changes nothing. -/
theorem serveStack_pop_empty (h : r.sp = 0) :
    r.serveStack .pop = (r, .refused (.fault (.stackUnderflow r.pc))) := by
  rw [serveStack, pop_empty h]

namespace Stacks

/-- New registers hold nothing. -/
theorem start (pc : Int) : ({ pc } : Registers).Stacks [] where
  sp := ⟨Int.le_refl 0, Int.natCast_nonneg 16⟩
  held := rfl

/-- The pointer tells how many pushes are pending. -/
theorem length_eq (h : r.Stacks pending) : (pending.length : Int) = r.sp := by
  rw [← length_held h.sp.1 h.sp.2, h.held, List.length_map]

/-- **A call does to the list what its passage does to the pending pushes.** -/
theorem serve (h : r.Stacks pending) (c : StackCall) :
    (r.serveStack c).1.Stacks ((r.stackPassage c).after pending) := by
  obtain ⟨h₀, h₁⟩ := h.sp
  cases c with
  | push address =>
    by_cases hroom : r.sp < 16
    · simp only [stackPassage, serveStack_push h₀ hroom, Passage.after]
      constructor
      · rw [push_of_room h₀ hroom]
        simp only
        omega
      · rw [held_push h₀ hroom, h.held, List.map_append, List.map_singleton]
    · simp only [stackPassage, serveStack_push_full (Int.not_lt.1 hroom)]
      exact h
  | pop =>
    by_cases hpos : 0 < r.sp
    · obtain ⟨address, hpop, hheld⟩ := exists_serveStack_pop hpos h₁
      simp only [stackPassage, hpop, Passage.after]
      constructor
      · rw [pop_of_pos hpos h₁]
        simp only
        omega
      · rw [List.map_dropLast, ← h.held, hheld, List.dropLast_concat]
    · simp only [stackPassage, serveStack_pop_empty (r := r) (by omega)]
      exact h

/-- **The list of a session is that of its pending pushes.** -/
theorem run (h : r.Stacks pending) (calls : List StackCall) :
    (r.runStack calls).Stacks ((r.stackPassages calls).foldl Passage.after pending) := by
  induction calls generalizing r pending with
  | nil => exact h
  | cons c calls ih => exact ih (h.serve c)

/-- An address that was taken off is still in its slot, but no longer in the list. -/
example : let r := ({ pc := 512 } : Registers).runStack [.push 74565, .pop]
    r.held = [] ∧ Cells.get r.stack 0 = 9029 := by decide

end Stacks

/-! ### Sessions -/

/-- The passages of a session in two parts are those of the one and then those of the other. -/
theorem stackPassages_append (r : Registers) (calls more : List StackCall) :
    r.stackPassages (calls ++ more) =
      r.stackPassages calls ++ (r.runStack calls).stackPassages more := by
  induction calls generalizing r with
  | nil => rfl
  | cons c calls ih => exact congrArg (r.stackPassage c :: ·) (ih (r.serveStack c).1)

/-- Where the passages of a session can be divided, the session can. -/
theorem exists_of_stackPassages_eq {calls : List StackCall} {row more : List Passage}
    (h : r.stackPassages calls = row ++ more) :
    ∃ before rest, calls = before ++ rest ∧ r.stackPassages before = row ∧
      (r.runStack before).stackPassages rest = more := by
  induction row generalizing r calls with
  | nil => exact ⟨[], calls, rfl, rfl, h⟩
  | cons passage row ih =>
    cases calls with
    | nil => cases h
    | cons c calls =>
      obtain ⟨hc, hcalls⟩ := List.cons.inj h
      obtain ⟨before, rest, hbefore, hrow, hmore⟩ := ih hcalls
      refine ⟨c :: before, rest, ?_, ?_, hmore⟩
      · rw [hbefore, List.cons_append]
      · rw [stackPassages, hc, hrow]

/-- What passes as a call is a push that was not refused. -/
theorem pushed_of_stackPassage {c : StackCall} {address : Int}
    (h : r.stackPassage c = .call address) :
    c = .push address ∧ (r.serveStack c).2 = .pushed := by
  unfold stackPassage at h
  split at h
  · rename_i hreply
    obtain rfl := Passage.call.inj h
    exact ⟨rfl, hreply⟩
  · cases h
  · cases h

section Matching

variable {calls before inner : List StackCall} {pushed : Int}

/-- A pop that is not refused matches the last of the pending pushes. -/
theorem exists_matches (hr : r.Stacks []) {address : UInt16}
    (h : ((r.runStack calls).serveStack .pop).2 = .popped address) :
    ∃ before pushed inner, r.Matches calls before pushed inner := by
  have hstacks := hr.run calls
  generalize hrow : (r.stackPassages calls).foldl Passage.after [] = pending at hstacks
  rcases pending.eq_nil_or_concat' with rfl | ⟨pending, pushed, rfl⟩
  · rw [serveStack_pop_empty hstacks.length_eq.symm] at h
    cases h
  · obtain ⟨row, rest, hsplit, hbalanced⟩ := Passage.exists_matching hrow
    obtain ⟨before, after, rfl, -, hafter⟩ := exists_of_stackPassages_eq hsplit
    cases after with
    | nil => cases hafter
    | cons c inner =>
      obtain ⟨hc, hinner⟩ := List.cons.inj hafter
      obtain ⟨rfl, hpushed⟩ := pushed_of_stackPassage hc
      exact ⟨before, pushed, inner, rfl, hpushed, by rwa [hinner]⟩

/-- The push that a pop matches is the last of the pending ones. -/
theorem Matches.foldl_after (h : r.Matches calls before pushed inner) :
    (r.stackPassages calls).foldl Passage.after pending =
      (r.stackPassages before).foldl Passage.after pending ++ [pushed] := by
  have hcall : (r.runStack before).stackPassage (.push pushed) = .call pushed := by
    simp only [stackPassage, h.pushed]
  rw [h.calls_eq, stackPassages_append, List.foldl_append, stackPassages, hcall, List.foldl_cons,
    h.balanced.foldl_after]
  rfl

/-- A pop that has a push to match is not refused, and gives its address in sixteen bits. -/
theorem Matches.exists_popped (h : r.Matches calls before pushed inner) (hr : r.Stacks pending) :
    ∃ address, ((r.runStack calls).serveStack .pop).2 = .popped address ∧
      (address.toNat : Int) = pushed % 65536 := by
  have hstacks := hr.run calls
  rw [h.foldl_after] at hstacks
  have hlength := hstacks.length_eq
  have hheld := hstacks.held
  rw [List.length_append, List.length_singleton] at hlength
  rw [List.map_append, List.map_singleton] at hheld
  obtain ⟨address, hpop, hlast⟩ := exists_serveStack_pop (by omega) hstacks.sp.2
  obtain ⟨-, hsame⟩ := List.append_inj' (hheld.symm.trans hlast) rfl
  rw [hpop]
  exact ⟨address, rfl, (List.singleton_inj.1 hsame).symm⟩

end Matching

/-- **The stack is a bounded list, last in, first out.**  Let pushes of any integers and pops be
asked of the stack of new registers, in any order.  The list that the stack then holds has the
length that the pointer says, which is at most sixteen.  A push adds the low 16 bits of its address
at the end; if sixteen are held, it overflows and changes nothing.  A pop takes the last address off
and gives it; if none is held, it underflows and changes nothing.

Each pop that is not refused has a push that it matches, and gives the address of that push in
sixteen bits; and so does every pop that has one. -/
theorem stack_bounded_lifo (pc : Int) (calls : List StackCall) :
    let new : Registers := { pc }
    let r := new.runStack calls
    (0 ≤ r.sp ∧ r.sp ≤ 16 ∧ (r.held.length : Int) = r.sp) ∧
      (∀ address, r.held.length < 16 → (r.serveStack (.push address)).2 = .pushed ∧
        (r.serveStack (.push address)).1.held = r.held ++ [address % 65536]) ∧
      (∀ address, r.held.length = 16 → r.serveStack (.push address) =
        (r, .refused (.fault (.stackOverflow address 16)))) ∧
      (∀ rest last, r.held = rest ++ [last] → ∃ address, (address.toNat : Int) = last ∧
        (r.serveStack .pop).2 = .popped address ∧ (r.serveStack .pop).1.held = rest) ∧
      (r.held = [] → r.serveStack .pop = (r, .refused (.fault (.stackUnderflow r.pc)))) ∧
      (∀ address, (r.serveStack .pop).2 = .popped address →
        ∃ before pushed inner, new.Matches calls before pushed inner ∧
          (address.toNat : Int) = pushed % 65536) ∧
      ∀ before pushed inner, new.Matches calls before pushed inner →
        ∃ address, (r.serveStack .pop).2 = .popped address ∧
          (address.toNat : Int) = pushed % 65536 := by
  intro new r
  have hnew : new.Stacks [] := Stacks.start pc
  obtain ⟨h₀, h₁⟩ := (hnew.run calls).sp
  have hlength : (r.held.length : Int) = r.sp := length_held h₀ h₁
  refine ⟨⟨h₀, h₁, hlength⟩, fun address hroom => ?_, fun address hfull => ?_,
    fun rest last hheld => ?_, fun hnone => ?_, fun address hpop => ?_,
    fun before pushed inner hmatch => hmatch.exists_popped hnew⟩
  · have hsp : r.sp < 16 := by omega
    rw [serveStack_push h₀ hsp]
    exact ⟨rfl, held_push h₀ hsp address⟩
  · exact serveStack_push_full (by omega) address
  · rw [hheld, List.length_append, List.length_singleton] at hlength
    obtain ⟨address, hpop, hlast⟩ := exists_serveStack_pop (r := r) (by omega) h₁
    obtain ⟨hrest, hsame⟩ := List.append_inj' (hheld.symm.trans hlast) rfl
    rw [hpop]
    exact ⟨address, (List.singleton_inj.1 hsame).symm, rfl, hrest.symm⟩
  · rw [hnone] at hlength
    exact serveStack_pop_empty hlength.symm
  · obtain ⟨before, pushed, inner, hmatch⟩ := exists_matches hnew hpop
    obtain ⟨other, hother, hpushed⟩ := hmatch.exists_popped hnew
    obtain rfl := StackReply.popped.inj (hpop.symm.trans hother)
    exact ⟨before, pushed, inner, hmatch, hpushed⟩

end Registers
end Chip8
