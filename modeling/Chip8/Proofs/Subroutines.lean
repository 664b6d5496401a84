/-
# Subroutines come back to where they were called

A program cannot reach the stack but through calls and returns.  So the stack is
no more than a record of the calls that are pending: those that were carried out
and have not come back yet.

To say so, a session is read as a row of passages (`Passage`), as far as the
answers of the machine show them: the program starts, goes into a subroutine,
comes back from one, or does something else.  The pending calls follow from the
passages alone, last in, first out (`Passage.after`); the machine has no part in
it.  That the stack agrees with them is `Nested`, which every call of the host
keeps (`Nested.serve`).  Only the two instructions in question need an argument;
the footprint of any other kind leaves the stack alone.

In a row of passages in which calls and returns match (`Balanced`), the pending
calls are in the end what they were; so a return goes to the instruction after
the call that it matches (`Nested.run_matching`).
-/

import Chip8.Proofs.Records

namespace Chip8

/-- What a step of a session is for the subroutines of a program. -/
inductive Passage where
  /-- The program starts. -/
  | start
  /-- It goes into a subroutine, called at an address. -/
  | call (site : Int)
  /-- It comes back from a subroutine. -/
  | back
  | other
  deriving DecidableEq, Repr

namespace Passage

/-- The sites of the pending calls after a passage, from the oldest to the newest, given those
before it. -/
def after (pending : List Int) : Passage → List Int
  | .start => []
  | .call site => pending ++ [site]
  | .back => pending.dropLast
  | .other => pending

/-- Rows of passages in which every call is matched by a return that comes later, and every return
by a call that came earlier. -/
inductive Balanced : List Passage → Prop
  | nil : Balanced []
  | other {row : List Passage} (h : Balanced row) : Balanced (.other :: row)
  | nest {site : Int} {inner row : List Passage} (hinner : Balanced inner) (h : Balanced row) :
    Balanced (.call site :: inner ++ .back :: row)

/-- A balanced row leaves the pending calls as they were. -/
theorem Balanced.foldl_after {row : List Passage} (h : Balanced row) (pending : List Int) :
    row.foldl after pending = pending := by
  induction h generalizing pending with
  | nil => rfl
  | other h ih => exact ih pending
  | nest hinner h ihinner ih =>
    rw [List.cons_append, List.foldl_cons, List.foldl_append, ihinner, List.foldl_cons, ih]
    exact List.dropLast_concat

end Passage

/-- The passage of an instruction that is carried out at an address. -/
def Instruction.passage (ins : Instruction) (pc : Int) : Passage :=
  match ins.kind with
  | .call => .call pc
  | .returnFromCall => .back
  | _ => .other

/-- The passage of a cycle that began at an address: that of its instruction, if there was one and
it did not fault. -/
def Snapshot.passage (s : Snapshot) (pc : Int) : Passage :=
  match s.activity.instruction?, s.fault with
  | some ins, none => ins.passage pc
  | _, _ => .other

/-- Registers whose stack holds the way back from each of the pending calls: the address after the
call, in sixteen bits. -/
structure Registers.Holds (r : Registers) (pending : List Int) : Prop where
  sp : r.sp = pending.length
  stack : ∀ (k : Nibble) (site : Int), pending[k.val]? = some site →
    ((Cells.get r.stack k).toNat : Int) = (site + 2) % 65536

namespace Machine

/-- The passage of a call of the host. -/
def passage (m : Machine) (c : HostCall) : Passage :=
  if c.startsOver then .start
  else if c = .cycle then
    match m.cycle.2 with
    | .ok s => s.passage m.regs.pc
    | .error _ => .other
  else .other

/-- The passages of a session. -/
def passages (m : Machine) : List HostCall → List Passage
  | [] => []
  | c :: calls => m.passage c :: (m.serve c).1.passages calls

/-- The sites of the calls that are pending at the end of a session, from the oldest to the
newest. -/
def pendingCalls (m : Machine) (calls : List HostCall) : List Int :=
  (m.passages calls).foldl Passage.after []

/-- A machine whose stack is the record of the pending calls. -/
structure Nested (m : Machine) (pending : List Int) : Prop where
  bounded : m.Bounded
  recorded : m.Recorded
  holds : m.regs.Holds pending

end Machine

/-! ### The stack -/

namespace Registers

variable {r : Registers} {pending : List Int}

/-- New registers hold no return. -/
theorem holds_start : ({} : Registers).Holds [] :=
  ⟨rfl, fun _ _ h => by cases h⟩

/-- What is held is up to the pointer and the slots alone. -/
theorem Holds.congr (h : r.Holds pending) {s : Registers} (hsp : s.sp = r.sp)
    (hstack : s.stack = r.stack) : s.Holds pending :=
  ⟨hsp.trans h.sp, fun k site hk => by rw [hstack, h.stack k site hk]⟩

/-- A push for a call holds its site on top of the others. -/
theorem Holds.push (h : r.Holds pending) (hroom : r.sp < 16) {address site : Int}
    (haddress : address % 65536 = (site + 2) % 65536) :
    (r.push address).1.Holds (pending ++ [site]) := by
  have hsp := h.sp
  rw [push_of_room (by omega) hroom]
  refine ⟨by simp only [List.length_append, List.length_singleton, hsp]; omega, fun k x hk => ?_⟩
  have hlow := Nibble.val_low r.sp
  rw [Cells.get_set]
  by_cases htop : Nibble.low r.sp = k
  · -- The new entry is the way back from the new call.
    subst htop
    rw [List.getElem?_append_right (by omega), show (Nibble.low r.sp).val - pending.length = 0 by
      omega] at hk
    rw [if_pos rfl, toNat_kept, haddress, ← Option.some.inj hk]
  · have hk' : k.val < pending.length := by
      have hlt := (List.getElem?_eq_some_iff.1 hk).1
      rw [List.length_append, List.length_singleton] at hlt
      have hne : (Nibble.low r.sp).val ≠ k.val := mt Fin.ext htop
      omega
    rw [List.getElem?_append_left hk'] at hk
    rw [if_neg htop, h.stack k x hk]

/-- A pop holds all but the last. -/
theorem Holds.pop (h : r.Holds pending) (hpos : 0 < r.sp) :
    ({ r with sp := r.sp - 1 } : Registers).Holds pending.dropLast := by
  have hsp := h.sp
  refine ⟨by simp only [List.length_dropLast, hsp]; omega, fun k site hk => h.stack k site ?_⟩
  rw [List.getElem?_dropLast] at hk
  split at hk
  · exact hk
  · cases hk

/-- The newest entry is the way back from the newest call. -/
theorem Holds.top (h : r.Holds pending) (hpos : 0 < r.sp) (hroom : r.sp ≤ 16) :
    ∃ site, pending.getLast? = some site ∧
      ((Cells.get r.stack (Nibble.low (r.sp - 1))).toNat : Int) = (site + 2) % 65536 := by
  have hsp := h.sp
  have hlow := Nibble.val_low (r.sp - 1)
  have htop : (Nibble.low (r.sp - 1)).val = pending.length - 1 := by omega
  have hlt : pending.length - 1 < pending.length := by omega
  refine ⟨pending[pending.length - 1], ?_, h.stack _ _ ?_⟩
  · rw [List.getLast?_eq_getElem?, List.getElem?_eq_getElem hlt]
  · rw [htop, List.getElem?_eq_getElem hlt]

end Registers

namespace Machine

variable {m : Machine} {pending : List Int} {ins : Instruction}

/-- No more than sixteen calls are ever pending. -/
theorem Nested.length_le (h : m.Nested pending) : pending.length ≤ 16 := by
  have hsp := h.holds.sp
  have hle := h.bounded.regs.sp.2
  omega

/-! ### One step -/

/-- A call of the host that starts a program is a start. -/
theorem passage_of_startsOver {c : HostCall} (hc : c.startsOver = true) :
    m.passage c = .start := by
  rw [passage, if_pos hc]

/-- Any other call of the host but a cycle does nothing for the subroutines. -/
theorem passage_of_ne_cycle {c : HostCall} (hc : c.startsOver = false) (hne : c ≠ .cycle) :
    m.passage c = .other := by
  rw [passage, hc, if_neg Bool.false_ne_true, if_neg hne]

/-- What a cycle is for the subroutines is read off its snapshot. -/
theorem passage_cycle {s : Snapshot} (hs : m.cycle.2 = .ok s) :
    m.passage .cycle = s.passage m.regs.pc := by
  rw [passage, if_neg (by decide), if_pos rfl, hs]

/-- A program starts with no calls pending, whatever the machine was before. -/
theorem nested_of_startsOver (m : Machine) {c : HostCall} (hc : c.startsOver = true) :
    (m.serve c).1.Nested [] := by
  rcases m.serve_cases c with ⟨-, memory, programSize, hsize, hserve⟩ | rfl | ⟨hc', -⟩
  · rw [hserve]
    exact ⟨bounded_of_start rfl rfl hsize, recorded_of_start rfl rfl, Registers.holds_start⟩
  · exact absurd hc Bool.false_ne_true
  · rw [hc] at hc'
    exact absurd hc'.symm Bool.false_ne_true

/-- A cycle that carries out a call where there is room goes into a subroutine. -/
theorem passage_of_call (h : m.Bounded) (hh : m.halted = false) (hw : m.regs.keyWait = none)
    (hk : m.nextInstruction.kind = .call) (hroom : m.regs.sp < 16) :
    m.passage .cycle = .call m.regs.pc := by
  have hn : ((m.past m.nextInstruction).execute m.nextInstruction).2 = none := by
    simp only [execute, hk]
    rw [call_of_room (h.past m.nextInstruction).regs.sp.1 hroom]
  rw [passage_cycle (congrArg Prod.snd (cycle_of_carriedOut hh hw hn))]
  simp only [Snapshot.passage, Activity.instruction?, Instruction.passage, hk]

/-- A cycle that carries out nothing does nothing for the subroutines. -/
theorem passage_of_idle {s : Snapshot} {pc : Int} (h : s.activity.instruction? = none) :
    s.passage pc = .other := by
  rw [Snapshot.passage, h]

/-- A call that is carried out found room on the stack. -/
theorem Bounded.room_of_call (h : m.Bounded) (hk : ins.kind = .call)
    (hn : (m.execute ins).2 = none) : m.regs.sp < 16 := by
  refine Int.lt_iff_le_and_ne.2 ⟨h.regs.sp.2, fun hfull => ?_⟩
  rw [(Faults.overflow hk hfull).execute_eq] at hn
  cases hn

/-- A return that is carried out found an address on the stack. -/
theorem Bounded.pos_of_return (h : m.Bounded) (hk : ins.kind = .returnFromCall)
    (hn : (m.execute ins).2 = none) : 0 < m.regs.sp := by
  refine Int.lt_iff_le_and_ne.2 ⟨h.regs.sp.1, fun hempty => ?_⟩
  rw [(Faults.underflow hk hempty.symm).execute_eq] at hn
  cases hn

/-- **An instruction that is carried out** does to the stack what its passage does to the pending
calls, given that the program counter is past the instruction. -/
theorem Bounded.holds_execute (h : m.Bounded) (hm : m.regs.Holds pending) {pc : Int}
    (hpc : m.regs.pc = (pc + 2) % 65536) (hn : (m.execute ins).2 = none) :
    (m.execute ins).1.regs.Holds ((ins.passage pc).after pending) := by
  obtain ⟨h₀, h₁⟩ := h.regs.sp
  by_cases hcall : ins.kind = .call
  · have hroom := h.room_of_call hcall hn
    have haddress : m.regs.pc % 65536 = (pc + 2) % 65536 := by rw [hpc, Int.emod_emod]
    simp only [Machine.execute, Instruction.passage, hcall, call_of_room h₀ hroom]
    exact (hm.push hroom haddress).congr rfl rfl
  by_cases hback : ins.kind = .returnFromCall
  · have hpos := h.pos_of_return hback hn
    simp only [Machine.execute, Instruction.passage, hback, comeBack_of_pos hpos h₁]
    exact (hm.pop hpos).congr rfl rfl
  · have hother : ins.passage pc = .other := by
      unfold Instruction.passage
      split
      · exact absurd ‹_› hcall
      · exact absurd ‹_› hback
      · rfl
    have hstack := (m.execute_footprint ins).stack (by simp [hcall, hback])
    rw [hother]
    exact hm.congr hstack.1 hstack.2

/-- **A cycle does to the stack what its passage does to the pending calls.** -/
theorem Nested.cycle (h : m.Nested pending) :
    m.cycle.1.Nested ((m.passage .cycle).after pending) := by
  refine ⟨h.bounded.cycle, h.recorded.cycle h.bounded, ?_⟩
  rcases h.bounded.cycle_cases_due h.recorded with ⟨-, v, pc, keyWait, activity, hi, hcycle⟩ |
    ⟨hdue, -, hn, hcycle⟩ | ⟨f, hf⟩
  · rw [passage_cycle (congrArg Prod.snd hcycle), passage_of_idle hi, hcycle]
    exact h.holds.congr rfl rfl
  · rw [passage_cycle (congrArg Prod.snd hcycle), hcycle]
    exact (h.bounded.past _).holds_execute (h.holds.congr rfl rfl) rfl hn
  · rw [passage_cycle (congrArg Prod.snd hf.cycle_eq), hf.cycle_eq]
    exact h.holds.congr rfl rfl

/-- **Every call of the host keeps the stack a record of the pending calls.** -/
theorem Nested.serve (h : m.Nested pending) (c : HostCall) :
    (m.serve c).1.Nested ((m.passage c).after pending) := by
  rcases m.serve_cases c with ⟨hc, -⟩ | rfl | ⟨hc, hne, keypad, timers, screen, hserve⟩
  · rw [passage_of_startsOver hc]
    exact m.nested_of_startsOver hc
  · exact h.cycle
  · refine ⟨h.bounded.serve c, h.recorded.serve h.bounded c, ?_⟩
    rw [passage_of_ne_cycle hc hne, hserve]
    exact h.holds

/-- **After any session the stack holds the returns of the pending calls.** -/
theorem Nested.run (h : m.Nested pending) (calls : List HostCall) :
    (m.run calls).Nested ((m.passages calls).foldl Passage.after pending) := by
  induction calls generalizing m pending with
  | nil => exact h
  | cons c calls ih => exact ih (h.serve c)

/-! ### The next cycle -/

/-- **When calls and returns fault, and where a return goes.** -/
theorem Nested.exists_answer (h : m.Nested pending) :
    ∃ s, m.cycle.2 = .ok s ∧ ∀ ins, s.activity.instruction? = some ins →
      (ins.kind = .call → (s.fault ≠ none ↔ pending.length = 16)) ∧
      (ins.kind = .returnFromCall → (s.fault ≠ none ↔ pending = []) ∧
        (s.fault = none → ∃ site, pending.getLast? = some site ∧
          m.cycle.1.regs.pc = (site + 2) % 65536)) := by
  obtain ⟨s, hs⟩ := h.bounded.exists_accounts h.recorded
  have hsp := h.holds.sp
  refine ⟨s, hs.answered, fun ins hins => ?_⟩
  rw [hs.instruction] at hins
  rcases h.bounded.cycle_cases_due h.recorded with ⟨hdue, -⟩ | ⟨hdue, hfault, hn, hcycle⟩ | ⟨f, hf⟩
  · rw [hdue] at hins
    cases hins
  · -- It is carried out: there was room, or an address to go back to.
    obtain rfl := Option.some.inj (hdue.symm.trans hins)
    have hpast := h.bounded.past m.nextInstruction
    have hnone : s.fault = none := by
      rw [hs.fault, hcycle]
      exact ((m.past _).execute_footprint _).fault.trans hfault
    refine ⟨fun hk => ?_, fun hk => ⟨?_, fun _ => ?_⟩⟩
    · have hroom : m.regs.sp < 16 := hpast.room_of_call hk hn
      exact iff_of_false (fun hne => hne hnone) (by omega)
    · have hpos : 0 < m.regs.sp := hpast.pos_of_return hk hn
      refine iff_of_false (fun hne => hne hnone) fun hnil => ?_
      rw [hnil, List.length_nil] at hsp
      omega
    · have hpos := hpast.pos_of_return hk hn
      obtain ⟨site, hlast, htop⟩ := h.holds.top hpos h.bounded.regs.sp.2
      refine ⟨site, hlast, ?_⟩
      rw [hcycle, ← htop]
      simp only [Machine.execute, hk, comeBack_of_pos hpos hpast.regs.sp.2]
      rfl
  · have hdue := due?_of_running hf.1 hf.2.1
    obtain rfl := Option.some.inj (hdue.symm.trans hins)
    have hsome : s.fault = some f := by rw [hs.fault, hf.cycle_eq]; rfl
    have hne : s.fault ≠ none := by rw [hsome]; exact Option.some_ne_none f
    rcases hf.2.2 with ⟨hkind, hfull, -⟩ | ⟨hkind, hempty, -⟩
    · refine ⟨fun _ => iff_of_true hne (by omega), fun hk => ?_⟩
      rw [hkind] at hk
      cases hk
    · refine ⟨fun hk => ?_, fun _ => ⟨iff_of_true hne ?_, fun hnone => absurd hnone hne⟩⟩
      · rw [hkind] at hk
        cases hk
      · exact List.eq_nil_of_length_eq_zero (by omega)

/-- **The stack is the record of the pending calls.**  In a session that begins with a start of a
program, on any machine, the stack pointer is always the number of pending calls, of which there
are at most sixteen, and the entries below it are the addresses after them.  The next cycle is
answered: if it is a call, it faults exactly if sixteen calls are pending; if it is a return, it
faults exactly if none is, and goes otherwise to the address after the newest. -/
theorem run_stack_pending (k : Machine) {c : HostCall} (hc : c.startsOver = true)
    (calls : List HostCall) :
    let m := k.run (c :: calls)
    let pending := k.pendingCalls (c :: calls)
    m.regs.Holds pending ∧ pending.length ≤ 16 ∧
      ∃ s, m.cycle.2 = .ok s ∧ ∀ ins, s.activity.instruction? = some ins →
        (ins.kind = .call → (s.fault ≠ none ↔ pending.length = 16)) ∧
        (ins.kind = .returnFromCall → (s.fault ≠ none ↔ pending = []) ∧
          (s.fault = none → ∃ site, pending.getLast? = some site ∧
            m.cycle.1.regs.pc = (site + 2) % 65536)) := by
  intro m pending
  have h : m.Nested pending := by
    have hrun := (k.nested_of_startsOver hc).run calls
    have hpending : pending = ((k.serve c).1.passages calls).foldl Passage.after [] := by
      change (k.passage c :: (k.serve c).1.passages calls).foldl Passage.after [] = _
      rw [passage_of_startsOver hc, List.foldl_cons]
      rfl
    rw [hpending]
    exact hrun
  exact ⟨h.holds, h.length_le, h.exists_answer⟩

/-- A program that calls itself: after its first cycle one call is pending. -/
theorem run_stack_pending_of_call :
    let k := new .full (some 7)
    let c := HostCall.load [0x22, 0x00]
    let m := k.run [c, .cycle]
    c.startsOver = true ∧ k.pendingCalls [c, .cycle] = [0x200] ∧ m.regs.Holds [0x200] ∧
      ∃ s, m.cycle.2 = .ok s := by
  intro k c m
  have hc : c.startsOver = true := by decide
  obtain ⟨hholds, -, s, hs, -⟩ := run_stack_pending k hc [.cycle]
  have hserve : (k.serve c).1 = atStart k.keyScan k.keypad k.random [0x22, 0x00] := by
    have hload : k.load [0x22, 0x00] = _ := k.load_eq_atStart [0x22, 0x00] (by decide)
    rw [serve, hload]
    rfl
  have hkind : (atStart k.keyScan k.keypad k.random [0x22, 0x00]).nextInstruction.kind = .call := by
    rw [nextInstruction_atStart]
    decide
  have hcall : (k.serve c).1.passage .cycle = .call 0x200 := by
    have hb := (k.nested_of_startsOver hc).bounded
    rw [hserve] at hb ⊢
    exact passage_of_call hb rfl rfl hkind (by decide)
  have hpending : k.pendingCalls [c, .cycle] = [0x200] := by
    simp only [pendingCalls, passages, passage_of_startsOver hc, hcall]
    rfl
  exact ⟨hc, hpending, hpending ▸ hholds, s, hs⟩

/-! ### Matching calls and returns -/

/-- What shows as a way back is a return without a fault. -/
theorem exists_of_passage_eq_back {s : Snapshot} {pc : Int} (h : s.passage pc = .back) :
    ∃ ins, s.activity.instruction? = some ins ∧ ins.kind = .returnFromCall ∧ s.fault = none := by
  unfold Snapshot.passage at h
  split at h
  · rename_i ins hins hfault
    refine ⟨ins, hins, ?_, hfault⟩
    unfold Instruction.passage at h
    split at h
    · cases h
    · assumption
    · cases h
  · cases h

/-- **A return goes to the instruction after the call that it matches.**  If a machine carries out
a call, and then, after any session in which calls and returns match, a return, it goes on after
the call, with the same calls pending as before it. -/
theorem Nested.run_matching (h : m.Nested pending) (hcall : m.passage .cycle = .call m.regs.pc)
    {calls : List HostCall} (hinner : Passage.Balanced (m.cycle.1.passages calls))
    (hback : (m.cycle.1.run calls).passage .cycle = .back) :
    (m.cycle.1.run calls).cycle.1.regs.pc = (m.regs.pc + 2) % 65536 ∧
      (m.cycle.1.run calls).cycle.1.Nested pending := by
  have hn : (m.cycle.1.run calls).Nested (pending ++ [m.regs.pc]) := by
    have hrun := h.cycle.run calls
    rw [hinner.foldl_after, hcall] at hrun
    exact hrun
  obtain ⟨s, hs, hanswer⟩ := hn.exists_answer
  rw [passage_cycle hs] at hback
  obtain ⟨ins, hins, hk, hfault⟩ := exists_of_passage_eq_back hback
  obtain ⟨site, hlast, hpc⟩ := ((hanswer ins hins).2 hk).2 hfault
  rw [List.getLast?_concat] at hlast
  refine ⟨by rw [hpc, Option.some.inj hlast], ?_⟩
  have hcycle := hn.cycle
  rw [passage_cycle hs, hback, Passage.after, List.dropLast_concat] at hcycle
  exact hcycle

end Machine
end Chip8
