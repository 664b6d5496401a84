/-
# Which cycles fault, and what a fault leaves behind

Two instructions can fault: a call with all sixteen stack entries in use, and a
return with none.  `Machine.RunsInto` says when the next cycle is one of these,
in terms of the state before it.  Both fault before they have changed anything,
so all that is left of the cycle is `Machine.stoppedBy`: the program counter past
the instruction, the machine halted with the fault on record, one cycle more.

`Bounded.execute_cases` is what makes these the only two: in a machine within its
bounds every stack slot that is asked for exists.  That the accesses to memory,
keypad and screen cannot go wrong either is `cycleChecked_eq`.
-/

import Chip8.Proofs.Access
import Chip8.Proofs.Bounds
import Chip8.Proofs.Footprint

namespace Chip8
namespace Machine

/-- The fault of an instruction that is carried out by a machine. -/
inductive Faults (m : Machine) (ins : Instruction) : Fault → Prop
  | overflow (hk : ins.kind = .call) (hsp : m.regs.sp = 16) :
    Faults m ins (.stackOverflow m.regs.pc 16)
  | underflow (hk : ins.kind = .returnFromCall) (hsp : m.regs.sp = 0) :
    Faults m ins (.stackUnderflow m.regs.pc)

/-- The fault of a machine's next cycle: it is neither halted nor waiting, and the instruction at
the program counter is a call with a full stack or a return with an empty one. -/
def RunsInto (m : Machine) (f : Fault) : Prop :=
  m.halted = false ∧ m.regs.keyWait = none ∧
    ((m.nextInstruction.kind = .call ∧ m.regs.sp = 16 ∧
        f = .stackOverflow ((m.regs.pc + 2) % 65536) 16) ∨
      (m.nextInstruction.kind = .returnFromCall ∧ m.regs.sp = 0 ∧
        f = .stackUnderflow ((m.regs.pc + 2) % 65536)))

/-- All that is left of a cycle that faults. -/
def stoppedBy (m : Machine) (f : Fault) : Machine :=
  { m with
    regs := { m.regs with pc := (m.regs.pc + 2) % 65536 }
    halted := true, fault := some f, faultText := some f.message, cycles := m.cycles + 1 }

/-- A machine is halted exactly if it has a fault on record. -/
def Recorded (m : Machine) : Prop := m.halted = m.fault.isSome

variable {m : Machine} {ins : Instruction} {f : Fault}

/-- An instruction that faults has changed nothing. -/
theorem Faults.execute_eq (h : m.Faults ins f) : m.execute ins = (m, some (.fault f)) := by
  cases h with
  | overflow hk hsp =>
    simp only [execute, hk, call, Registers.push_full (show 16 ≤ m.regs.sp by omega)]
  | underflow hk hsp =>
    simp only [execute, hk, comeBack, Registers.pop_empty hsp]

/-- Where there is room, a call keeps the counter and goes to its address. -/
theorem call_of_room (h₀ : 0 ≤ m.regs.sp) (h : m.regs.sp < 16) (address : Address) :
    m.call address =
      ({ m with regs := { (m.regs.push m.regs.pc).1 with pc := address.val } }, none) := by
  rw [call, Registers.push_of_room h₀ h]

/-- Where there is something on the stack, a return takes it off and goes there. -/
theorem comeBack_of_pos (h₀ : 0 < m.regs.sp) (h : m.regs.sp ≤ 16) :
    m.comeBack =
      ({ m with regs := { m.regs with
          sp := m.regs.sp - 1
          pc := (Cells.get m.regs.stack (Nibble.low (m.regs.sp - 1))).toNat } }, none) := by
  rw [comeBack, Registers.pop_of_pos h₀ h]

/-- **An instruction is carried out or faults.**  Within the bounds there is no third way. -/
theorem Bounded.execute_cases (h : m.Bounded) (ins : Instruction) :
    (m.execute ins).2 = none ∨ ∃ f, m.Faults ins f := by
  obtain ⟨h₀, h₁⟩ := h.regs.sp
  cases hk : ins.kind
  case call =>
    rcases Int.lt_or_eq_of_le h₁ with hsp | hsp
    · left
      simp only [Machine.execute, hk, call_of_room h₀ hsp]
    · exact .inr ⟨_, .overflow hk hsp⟩
  case returnFromCall =>
    rcases Int.lt_or_eq_of_le h₀ with hsp | hsp
    · left
      simp only [Machine.execute, hk, comeBack_of_pos hsp h₁]
    · exact .inr ⟨_, .underflow hk hsp.symm⟩
  all_goals
    left
    simp only [Machine.execute, hk]

/-- A cycle runs into a fault if it is due to carry out an instruction that does. -/
theorem runsInto_iff : m.RunsInto f ↔ m.halted = false ∧ m.regs.keyWait = none ∧
    (m.past m.nextInstruction).Faults m.nextInstruction f := by
  constructor
  · rintro ⟨hh, hw, ⟨hk, hsp, rfl⟩ | ⟨hk, hsp, rfl⟩⟩
    · exact ⟨hh, hw, .overflow hk hsp⟩
    · exact ⟨hh, hw, .underflow hk hsp⟩
  · rintro ⟨hh, hw, hf⟩
    cases hf with
    | overflow hk hsp => exact ⟨hh, hw, .inl ⟨hk, hsp, rfl⟩⟩
    | underflow hk hsp => exact ⟨hh, hw, .inr ⟨hk, hsp, rfl⟩⟩

/-- **A cycle that faults** leaves the stopped machine behind and answers with the fault. -/
theorem RunsInto.cycle_eq (h : m.RunsInto f) :
    m.cycle =
      (m.stoppedBy f, .ok ⟨.executed m.regs.pc m.nextInstruction, m.cycles + 1, some f⟩) := by
  obtain ⟨hh, hw, hf⟩ := runsInto_iff.1 h
  rw [cycle_of_running hh hw]
  simp only [executeCycle, hf.execute_eq]
  rfl

/-- A cycle whose instruction is carried out answers with it and without a fault. -/
theorem cycle_of_carriedOut (hh : m.halted = false) (hw : m.regs.keyWait = none)
    (hn : ((m.past m.nextInstruction).execute m.nextInstruction).2 = none) :
    m.cycle = ((m.past m.nextInstruction).execute m.nextInstruction).1.answer
      (.executed m.regs.pc m.nextInstruction) none := by
  rw [cycle_of_running hh hw, executeCycle_of_carriedOut hn]

/-- What a cycle that does not fault comes to: an answer, with the record as it was. -/
structure Passes (m : Machine) : Prop where
  answered : ∃ s, m.cycle.2 = .ok s
  halted : m.cycle.1.halted = m.halted
  fault : m.cycle.1.fault = m.fault

/-- A cycle passes if it ends with an answer from a machine that has the record of the old one. -/
theorem passes_of_answer {n : Machine} {activity : Activity} {fault : Option Fault}
    (h : m.cycle = n.answer activity fault) (hh : n.halted = m.halted) (hf : n.fault = m.fault) :
    m.Passes := by
  refine ⟨?_, ?_, ?_⟩
  · rw [h]
    exact ⟨_, rfl⟩
  · rw [h]
    exact hh
  · rw [h]
    exact hf

/-- A cycle that waits for a key changes no more than what it waits for. -/
theorem Bounded.exists_awaitCycle_eq (h : m.Bounded) {register : Int}
    (hw : m.regs.keyWait = some register) (key? : Option Nibble) :
    ∃ v pc keyWait activity, activity.instruction? = none ∧
      m.awaitCycle register key? =
        Machine.answer { m with regs := { m.regs with v, pc, keyWait } } activity none := by
  obtain ⟨h₀, h₁⟩ := h.regs.keyWait register hw
  cases key? with
  | none => exact ⟨_, _, _, .waiting m.regs.pc register, rfl, rfl⟩
  | some key =>
    have hslot := Registers.slot?_of_lt h₀ (show register < 16 by omega)
    simp only [Machine.awaitCycle, hslot]
    exact ⟨_, _, _, .resumed m.regs.pc register key, rfl, rfl⟩

/-- A cycle in which a machine waits does not fault. -/
theorem Bounded.passes_of_waiting (h : m.Bounded) (hh : m.halted = false) {register : Int}
    (hw : m.regs.keyWait = some register) : m.Passes := by
  obtain ⟨v, pc, keyWait, activity, -, hcycle⟩ := h.exists_awaitCycle_eq hw m.pressedKey
  rw [← cycle_of_waiting hh hw] at hcycle
  exact passes_of_answer hcycle rfl rfl

/-- **A cycle passes or faults.**  In a machine within its bounds no cycle breaks off. -/
theorem Bounded.cycle_cases (h : m.Bounded) : m.Passes ∨ ∃ f, m.RunsInto f := by
  cases hh : m.halted with
  | true => exact .inl (passes_of_answer (cycle_of_halted hh) rfl rfl)
  | false =>
    cases hw : m.regs.keyWait with
    | some register => exact .inl (h.passes_of_waiting hh hw)
    | none =>
      rcases (h.past _).execute_cases m.nextInstruction with hn | ⟨f, hf⟩
      · exact .inl (passes_of_answer (cycle_of_carriedOut hh hw hn) halted_execute fault_execute)
      · exact .inr ⟨f, runsInto_iff.2 ⟨hh, hw, hf⟩⟩

/-! ### The record along a session -/

/-- A machine that runs and has no fault on record keeps its record. -/
theorem recorded_of_start (hh : m.halted = false) (hf : m.fault = none) : m.Recorded := by
  rw [Recorded, hh, hf]
  rfl

/-- A cycle keeps the record: what halts a machine is put down with its fault. -/
theorem Recorded.cycle (hm : m.Recorded) (h : m.Bounded) : m.cycle.1.Recorded := by
  rcases h.cycle_cases with hp | ⟨f, hf⟩
  · rw [Recorded, hp.halted, hp.fault]
    exact hm
  · rw [hf.cycle_eq]
    rfl

/-- Every call of a host keeps the record. -/
theorem Recorded.serve (hm : m.Recorded) (h : m.Bounded) (c : HostCall) :
    (m.serve c).1.Recorded :=
  serve_preserves hm (fun _ _ => recorded_of_start rfl rfl) (recorded_of_start rfl rfl)
    (hm.cycle h) hm (fun _ => hm) (fun _ => hm) c

/-- In a session that starts with a new machine the record and the halt go together. -/
theorem recorded_run (keyScan : KeyScan) (seed : Option Int) (calls : List HostCall) :
    ((new keyScan seed).run calls).Recorded := by
  have h : ((new keyScan seed).run calls).Bounded ∧ ((new keyScan seed).run calls).Recorded :=
    run_preserves (P := fun m => m.Bounded ∧ m.Recorded)
      (fun m c hm => ⟨hm.1.serve c, hm.2.serve hm.1 c⟩) _ calls
      ⟨bounded_new keyScan seed, recorded_of_start rfl rfl⟩
  exact h.2

/-- A machine that is not halted has no fault on record. -/
theorem Recorded.fault_eq_none (hm : m.Recorded) (hh : m.halted = false) : m.fault = none := by
  rw [hm] at hh
  exact Option.not_isSome_iff_eq_none.1 (by rw [hh]; exact Bool.false_ne_true)

/-- **No cycle of a session breaks off, and the two faults come exactly when they should.**  In
every state that a host can bring a new machine into, the next cycle is answered, with each of its
accesses checked; it puts a new fault on record if and only if it is a call with a full stack or a
return with an empty one; and then the fault, the halt, the count and the program counter past the
instruction are all that has changed. -/
theorem run_new_cycle_faults_iff (keyScan : KeyScan) (seed : Option Int) (calls : List HostCall) :
    let m := (new keyScan seed).run calls
    (∃ s, m.cycleChecked = .ok (m.cycle.1, .ok s)) ∧
      (m.cycle.1.fault ≠ m.fault ↔ ∃ f, m.RunsInto f) ∧
      ∀ f, m.RunsInto f → m.fault = none ∧ m.cycle =
        (m.stoppedBy f, .ok ⟨.executed m.regs.pc m.nextInstruction, m.cycles + 1, some f⟩) := by
  intro m
  have hb : m.Bounded := (bounded_new keyScan seed).run calls
  have hr : m.Recorded := recorded_run keyScan seed calls
  refine ⟨?_, ?_, fun f hf => ⟨hr.fault_eq_none hf.1, hf.cycle_eq⟩⟩
  · rw [cycleChecked_eq]
    rcases hb.cycle_cases with hp | ⟨f, hf⟩
    · obtain ⟨s, hs⟩ := hp.answered
      exact ⟨s, by rw [← hs]⟩
    · exact ⟨_, by rw [hf.cycle_eq]⟩
  · constructor
    · intro hne
      rcases hb.cycle_cases with hp | hf
      · exact absurd hp.fault hne
      · exact hf
    · rintro ⟨f, hf⟩
      rw [hf.cycle_eq, hr.fault_eq_none hf.1]
      exact Option.some_ne_none f

end Machine
end Chip8
