/-
# What a machine records

A machine keeps records for its host: whether a fault has stopped it and which
one, as a fault and in words; how many cycles it has run since it started over;
and, as the answer to each cycle, what the cycle did.  The records are written at
different points, and here they are found to agree with one another and with the
calls that the host has made.

`Bounded.cycle_cases_due` lists once and for all what a cycle comes to: it leaves
the program alone, carries out the instruction that is due, or faults.  Each
record is then a matter of three cases (`exists_accounts`, `Accurate.serve`).
That a halted machine stays as it is does not need them: none of the calls with
which a program is played reaches it (`run_of_halted`).
-/

import Mathlib.Data.List.Induction
import Chip8.Proofs.Loading

namespace Chip8

namespace HostCall

/-- How many cycles a host has asked for since it last made its machine start over. -/
def cyclesSinceStart (calls : List HostCall) : Nat :=
  (calls.reverse.takeWhile fun c => !c.startsOver).count .cycle

/-- The calls with which a host plays a program. -/
def plays : HostCall → Bool
  | .cycle | .tick | .keyDown _ | .keyUp _ => true
  | _ => false

/-- When a program starts, no cycle has been run since. -/
theorem cyclesSinceStart_append_of_startsOver {c : HostCall} (h : c.startsOver = true)
    (calls : List HostCall) : cyclesSinceStart (calls ++ [c]) = 0 := by
  rw [cyclesSinceStart, List.reverse_append, List.reverse_singleton, List.singleton_append,
    List.takeWhile_cons_of_neg (by rw [h]; decide), List.count_nil]

/-- Else a cycle is one more, and any other call leaves the number. -/
theorem cyclesSinceStart_append {c : HostCall} (h : c.startsOver = false)
    (calls : List HostCall) :
    cyclesSinceStart (calls ++ [c]) = cyclesSinceStart calls + [c].count .cycle := by
  rw [cyclesSinceStart, List.reverse_append, List.reverse_singleton, List.singleton_append,
    List.takeWhile_cons_of_pos (by rw [h]; decide), ← List.singleton_append, List.count_append,
    Nat.add_comm, cyclesSinceStart]

end HostCall

namespace Machine

/-- The instruction that the next cycle is due to carry out: none if the machine is halted or
waits for a key. -/
def due? (m : Machine) : Option Instruction :=
  if m.halted || m.regs.waiting then none else some (.decode (m.memory.wordAt m.regs.pc))

/-- An answer that accounts for a machine's next cycle: the cycle is counted, and the answer tells
the count, the instruction that was due, and the fault that is on record afterwards. -/
structure Accounts (m : Machine) (s : Snapshot) : Prop where
  answered : m.cycle.2 = .ok s
  counted : m.cycle.1.cycles = m.cycles + 1
  count : s.count = m.cycle.1.cycles
  instruction : s.activity.instruction? = m.due?
  fault : s.fault = m.cycle.1.fault

/-- A machine whose records are right after a number of cycles. -/
structure Accurate (m : Machine) (count : Nat) : Prop where
  bounded : m.Bounded
  recorded : m.Recorded
  text : m.faultText = m.fault.map Fault.message
  cycles : m.cycles = count

variable {m : Machine}

/-- A halted machine has nothing to carry out. -/
theorem due?_of_halted (hh : m.halted = true) : m.due? = none := by
  rw [due?, hh, Bool.true_or, if_pos rfl]

/-- Nor has one that waits for a key. -/
theorem due?_of_waiting {register : Int} (hw : m.regs.keyWait = some register) :
    m.due? = none := by
  rw [due?, Registers.waiting, hw, Option.isSome_some, Bool.or_true, if_pos rfl]

/-- Any other is due to carry out its next instruction. -/
theorem due?_of_running (hh : m.halted = false) (hw : m.regs.keyWait = none) :
    m.due? = some m.nextInstruction := by
  rw [due?, Registers.waiting, hh, hw]
  rfl

/-- **What a cycle changes.**  If no instruction is due, the registers and the count only; else what
the instruction changes, and the machine's records. -/
theorem cycle_footprint (m : Machine) :
    (m.due? = none ∧ ∃ regs cycles, m.cycle.1 = { m with regs, cycles }) ∨
      (m.due? = some m.nextInstruction ∧ ∃ halted fault faultText cycles, m.cycle.1 =
        { ((m.past m.nextInstruction).execute m.nextInstruction).1 with
          halted, fault, faultText, cycles }) := by
  by_cases hh : m.halted = true
  · rw [cycle_of_halted hh]
    exact .inl ⟨due?_of_halted hh, _, _, rfl⟩
  · rw [Bool.not_eq_true] at hh
    rcases hw : m.regs.keyWait with _ | register
    · rw [cycle_of_running hh hw]
      exact .inr ⟨due?_of_running hh hw, conclude_footprint _ _ _ _⟩
    · rw [cycle_of_waiting hh hw]
      exact .inl ⟨due?_of_waiting hw, m.awaitCycle_footprint register m.pressedKey⟩

/-- **What a cycle comes to.**  No instruction is due, and the cycle changes nothing but what a
waiting machine waits for; or the instruction that is due is carried out; or it faults. -/
theorem Bounded.cycle_cases_due (h : m.Bounded) (hr : m.Recorded) :
    (m.due? = none ∧ ∃ v pc keyWait activity, activity.instruction? = none ∧
        m.cycle = Machine.answer { m with regs := { m.regs with v, pc, keyWait } } activity m.fault) ∨
      (m.due? = some m.nextInstruction ∧ m.fault = none ∧
        ((m.past m.nextInstruction).execute m.nextInstruction).2 = none ∧
        m.cycle = ((m.past m.nextInstruction).execute m.nextInstruction).1.answer
          (.executed m.regs.pc m.nextInstruction) none) ∨
      ∃ f, m.RunsInto f := by
  by_cases hh : m.halted = true
  · exact .inl ⟨due?_of_halted hh, _, _, _, .halted m.regs.pc, rfl, cycle_of_halted hh⟩
  · rw [Bool.not_eq_true] at hh
    have hfault := hr.fault_eq_none hh
    rcases hw : m.regs.keyWait with _ | register
    · right
      rcases (h.past _).execute_cases m.nextInstruction with hn | ⟨f, hf⟩
      · exact .inl ⟨due?_of_running hh hw, hfault, hn, cycle_of_carriedOut hh hw hn⟩
      · exact .inr ⟨f, runsInto_iff.2 ⟨hh, hw, hf⟩⟩
    · obtain ⟨v, pc, keyWait, activity, hi, hcycle⟩ := h.exists_awaitCycle_eq hw m.pressedKey
      rw [← cycle_of_waiting hh hw, ← hfault] at hcycle
      exact .inl ⟨due?_of_waiting hw, v, pc, keyWait, activity, hi, hcycle⟩

/-! ### The answer to a cycle -/

/-- A cycle that ends with an answer accounts for itself by what it answers. -/
theorem accounts_of_answer {n : Machine} {activity : Activity} {fault : Option Fault}
    (h : m.cycle = n.answer activity fault) (hcycles : n.cycles = m.cycles)
    (hi : activity.instruction? = m.due?) (hf : fault = n.fault) : ∃ s, m.Accounts s := by
  refine ⟨⟨activity, n.cycles + 1, fault⟩, ?_, ?_, ?_, hi, ?_⟩ <;> rw [h]
  · rfl
  · exact congrArg (· + 1) hcycles
  · rfl
  · exact hf

/-- **Every cycle is accounted for.** -/
theorem Bounded.exists_accounts (h : m.Bounded) (hr : m.Recorded) : ∃ s, m.Accounts s := by
  rcases h.cycle_cases_due hr with ⟨hdue, v, pc, keyWait, activity, hi, hcycle⟩ |
    ⟨hdue, hfault, -, hcycle⟩ | ⟨f, hf⟩
  · exact accounts_of_answer hcycle rfl (hi.trans hdue.symm) rfl
  · have hfoot := (m.past m.nextInstruction).execute_footprint m.nextInstruction
    exact accounts_of_answer hcycle hfoot.cycles hdue.symm (hfoot.fault.trans hfault).symm
  · have hcycle : m.cycle = Machine.answer { m.stoppedBy f with cycles := m.cycles }
        (.executed m.regs.pc m.nextInstruction) (some f) := hf.cycle_eq
    exact accounts_of_answer hcycle rfl (due?_of_running hf.1 hf.2.1).symm rfl

/-! ### The records along a session -/

/-- A cycle counts itself and keeps the record. -/
theorem Accurate.cycle {count : Nat} (h : m.Accurate count) : m.cycle.1.Accurate (count + 1) := by
  obtain ⟨s, hs⟩ := h.bounded.exists_accounts h.recorded
  refine ⟨h.bounded.cycle, h.recorded.cycle h.bounded, ?_, by rw [hs.counted, h.cycles]⟩
  rcases h.bounded.cycle_cases_due h.recorded with ⟨-, v, pc, keyWait, activity, -, hcycle⟩ |
    ⟨-, -, -, hcycle⟩ | ⟨f, hf⟩
  · rw [hcycle]
    exact h.text
  · have hfoot := (m.past m.nextInstruction).execute_footprint m.nextInstruction
    rw [hcycle]
    exact hfoot.faultText.trans (h.text.trans (congrArg _ hfoot.fault.symm))
  · rw [hf.cycle_eq]
    rfl

/-- A call keeps the records right: one that makes the machine start over sets the count to zero, a
cycle adds one to it, and no other call changes it. -/
theorem Accurate.serve {calls : List HostCall} (h : m.Accurate (HostCall.cyclesSinceStart calls))
    (c : HostCall) : (m.serve c).1.Accurate (HostCall.cyclesSinceStart (calls ++ [c])) := by
  have hb := h.bounded.serve c
  have hr := h.recorded.serve h.bounded c
  rcases m.serve_cases c with ⟨hc, memory, programSize, -, hserve⟩ | rfl |
    ⟨hc, hcycle, keypad, timers, screen, hserve⟩
  · rw [HostCall.cyclesSinceStart_append_of_startsOver hc]
    exact ⟨hb, hr, by rw [hserve]; rfl, by rw [hserve]; rfl⟩
  · rw [HostCall.cyclesSinceStart_append rfl]
    exact h.cycle
  · rw [HostCall.cyclesSinceStart_append hc, List.count_singleton, if_neg (by simpa using hcycle)]
    exact ⟨hb, hr, by rw [hserve]; exact h.text, by rw [hserve]; exact h.cycles⟩

/-- After any session the machine has counted the cycles since its program started. -/
theorem accurate_run (keyScan : KeyScan) (seed : Option Int) (calls : List HostCall) :
    ((new keyScan seed).run calls).Accurate (HostCall.cyclesSinceStart calls) := by
  -- The count looks back from the last call, so the induction adds calls at the end.
  induction calls using List.reverseRecOn with
  | nil => exact ⟨bounded_new keyScan seed, recorded_of_start rfl rfl, rfl, rfl⟩
  | append_singleton calls c ih =>
    rw [run_append]
    exact ih.serve c

/-! ### A halted machine -/

/-- While a machine is halted, a call that does not start a program leaves registers, memory and
screen as they are, and a cycle tells of the fault on record. -/
theorem serve_of_halted (hh : m.halted = true) {c : HostCall} (hc : c.plays = true) :
    (∃ keypad timers cycles, (m.serve c).1 = { m with keypad, timers, cycles }) ∧
      ∀ answer, (m.serve c).2 = .cycled answer → ∃ s, answer = .ok s ∧ s.fault = m.fault := by
  cases c with
  | cycle =>
    rw [serve, cycle_of_halted hh]
    exact ⟨⟨_, _, _, rfl⟩, fun answer ha => ⟨_, (Reply.cycled.inj ha).symm, rfl⟩⟩
  | tick => exact ⟨⟨_, _, _, rfl⟩, fun _ ha => by cases ha⟩
  | keyDown code =>
    rcases serve_keyDown code with ⟨e, he⟩ | ⟨key, hkey⟩
    · rw [he]
      exact ⟨⟨_, _, _, rfl⟩, fun _ ha => by cases ha⟩
    · rw [hkey]
      exact ⟨⟨_, _, _, rfl⟩, fun _ ha => by cases ha⟩
  | keyUp code =>
    rcases serve_keyUp code with ⟨e, he⟩ | ⟨key, hkey⟩
    · rw [he]
      exact ⟨⟨_, _, _, rfl⟩, fun _ ha => by cases ha⟩
    · rw [hkey]
      exact ⟨⟨_, _, _, rfl⟩, fun _ ha => by cases ha⟩
  | load | reset | releaseKeys | takeDirty | frame | clearScreen | togglePixel =>
    exact absurd hc Bool.false_ne_true

/-- **A halted machine stays as it is** while its program is played on, but for the keys, the
timers and the count of cycles; and each cycle is answered with the fault on record. -/
theorem run_of_halted (hh : m.halted = true) {calls : List HostCall}
    (hcalls : ∀ c ∈ calls, c.plays = true) :
    (∃ keypad timers cycles, m.run calls = { m with keypad, timers, cycles }) ∧
      ∀ answer, .cycled answer ∈ m.replies calls →
        ∃ s, answer = .ok s ∧ s.fault = m.fault := by
  induction calls generalizing m with
  | nil => exact ⟨⟨_, _, _, rfl⟩, fun _ ha => absurd ha List.not_mem_nil⟩
  | cons c calls ih =>
    obtain ⟨hc, hcalls⟩ := List.forall_mem_cons.1 hcalls
    obtain ⟨⟨keypad, timers, cycles, hserve⟩, hreply⟩ := serve_of_halted hh hc
    obtain ⟨⟨keypad', timers', cycles', hrun⟩, hreplies⟩ :=
      ih (m := (m.serve c).1) (by rw [hserve]; exact hh) hcalls
    rw [hserve] at hreplies hrun
    refine ⟨⟨keypad', timers', cycles', by rw [run_cons, hserve, hrun]⟩, fun answer ha => ?_⟩
    rw [replies, hserve] at ha
    rcases List.mem_cons.1 ha with ha | ha
    · exact hreply answer ha.symm
    · exact hreplies answer ha

/-- **The records of a reachable machine.**  However a host has driven a new machine: it is halted
exactly if a fault is on record, and then the text beside the registers is the wording of that
fault; its count is that of the cycles since it started over, and the next cycle is accounted for;
and once it is halted, it stays as it is while its program is played on, and each of the cycles is
answered with the fault that halted it. -/
theorem run_new_records (keyScan : KeyScan) (seed : Option Int) (calls : List HostCall) :
    let m := (new keyScan seed).run calls
    ((m.halted = true ↔ m.fault ≠ none) ∧ (m.fault ≠ none ↔ m.faultText ≠ none) ∧
        m.faultText = m.fault.map Fault.message) ∧
      m.cycles = HostCall.cyclesSinceStart calls ∧
      (∃ s, m.Accounts s) ∧
      (m.halted = true → ∀ more : List HostCall, (∀ c ∈ more, c.plays = true) →
        (∃ keypad timers cycles, m.run more = { m with keypad, timers, cycles }) ∧
          ∀ answer, .cycled answer ∈ m.replies more →
            ∃ s, answer = .ok s ∧ s.fault = m.fault) := by
  intro m
  have h : m.Accurate (HostCall.cyclesSinceStart calls) := accurate_run keyScan seed calls
  refine ⟨⟨?_, ?_, h.text⟩, h.cycles, h.bounded.exists_accounts h.recorded,
    fun hh more hmore => run_of_halted hh hmore⟩
  · rw [h.recorded, Option.isSome_iff_ne_none]
  · rw [h.text, ne_eq, ne_eq, Option.map_eq_none_iff]

/-- A machine that a lone return has halted. -/
theorem run_new_records_of_halted :
    let calls : List HostCall := [.load [0x00, 0xEE], .cycle]
    let more : List HostCall := [.keyDown 3, .cycle, .tick, .cycle]
    let m := (new .full (some 7)).run calls
    m.halted = true ∧ m.fault = some (.stackUnderflow 0x202) ∧ m.cycles = 1 ∧
      (∀ c ∈ more, c.plays = true) ∧
      (∃ keypad timers cycles, m.run more = { m with keypad, timers, cycles }) := by
  intro calls more m
  obtain ⟨-, hcycles, -, hsticky⟩ := run_new_records .full (some 7) calls
  have hm : m = _ := run_lone_return (new .full (some 7))
  have hh : m.halted = true := by rw [hm]; rfl
  have hmore : ∀ c ∈ more, c.plays = true := by decide
  exact ⟨hh, by rw [hm]; rfl, hcycles, hmore, (hsticky hh more hmore).1⟩

end Machine
end Chip8
