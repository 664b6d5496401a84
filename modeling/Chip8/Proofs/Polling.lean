/-
# Waiting for a key is polling for it

A machine that finds no key at `Fx0A` goes into waiting: it notes the register,
stands still, and looks at the keypad once a cycle without fetching anything.
A simpler machine would have no such mode.  Its `Fx0A` moves the program counter
back to itself when no key is down, so that the next cycle fetches and carries it
out again.  That machine is given here by `executePolling` and `cyclePolling`,
which neither read nor write the note.

The two are the same to a host: after the same calls they differ in the note
only (`runPolling_eq`).  A cycle of a waiting machine is that of a polling one
because the note always belongs to the instruction under the program counter.
`WaitsAtInstruction` says so; every call keeps it, since while a machine waits,
neither its memory nor its program counter can change without the note being
torn up.
-/

import Chip8.Proofs.Bounds
import Chip8.Proofs.Footprint

namespace Chip8

/-! ### The polling machine -/

namespace Machine

/-- Takes a key that is down into a register, or else goes back to the instruction that asks for
it. -/
def pollKey (m : Machine) (x : Register) : Option Nibble → Machine
  | some key => m.setV x (UInt8.ofNat key.val)
  | none => m.setPc ((m.regs.pc - 2) % 65536)

/-- Carries out an instruction. -/
def executePolling (m : Machine) (ins : Instruction) : Machine × Option Stop :=
  match ins.kind with
  | .awaitKey => (m.pollKey ins.x m.pressedKey, none)
  | _ => m.execute ins

/-- One cycle: the machine is halted, or it fetches, decodes and executes. -/
def cyclePolling (m : Machine) : Machine × Except CycleError Snapshot :=
  if m.halted then m.answer (.halted m.regs.pc) m.fault
  else
    let ins := m.nextInstruction
    conclude m.regs.pc ins ((m.past ins).executePolling ins)

/-- Answers a call. -/
def servePolling (m : Machine) : HostCall → Machine × Reply
  | .cycle => (m.cyclePolling.1, .cycled m.cyclePolling.2)
  | c => m.serve c

/-- The machine at the end of a session. -/
def runPolling (m : Machine) (calls : List HostCall) : Machine :=
  calls.foldl (fun m c => (m.servePolling c).1) m

/-- The machine without the note of the register that waits. -/
def forgetWait (m : Machine) : Machine := { m with regs := { m.regs with keyWait := none } }

end Machine

/-! ### Instructions -/

namespace Registers

/-- A push does not look at the note. -/
theorem push_withKeyWait (r : Registers) (keyWait : Option Int) (address : Int) :
    ({ r with keyWait } : Registers).push address =
      ({ (r.push address).1 with keyWait }, (r.push address).2) := by
  by_cases hfull : 16 ≤ r.sp
  · simp only [push, if_pos hfull]
  · simp only [push, if_neg hfull]
    cases slot? r.sp <;> rfl

/-- A pop does not look at the note. -/
theorem pop_withKeyWait (r : Registers) (keyWait : Option Int) :
    ({ r with keyWait } : Registers).pop = ({ r.pop.1 with keyWait }, r.pop.2) := by
  by_cases hempty : r.sp = 0
  · simp only [pop, if_pos hempty]
  · simp only [pop, if_neg hempty]
    cases slot? (r.sp - 1) <;> rfl

end Registers

namespace Machine

variable {m : Machine}

/-- A call does not ask whether the machine waits. -/
theorem call_forgetWait (m : Machine) (address : Address) :
    m.forgetWait.call address = ((m.call address).1.forgetWait, (m.call address).2) := by
  have hpush := m.regs.push_withKeyWait none m.regs.pc
  unfold call
  rw [show m.forgetWait.regs.push m.forgetWait.regs.pc = _ from hpush]
  rcases m.regs.push m.regs.pc with ⟨regs, _ | stop⟩ <;> rfl

/-- A return does not ask whether the machine waits. -/
theorem comeBack_forgetWait (m : Machine) :
    m.forgetWait.comeBack = (m.comeBack.1.forgetWait, m.comeBack.2) := by
  have hpop := m.regs.pop_withKeyWait none
  unfold comeBack
  rw [show m.forgetWait.regs.pop = _ from hpop]
  rcases m.regs.pop with ⟨regs, stop | kept⟩ <;> rfl

/-- To poll for a key is to take it, or else to be back at the instruction without a note of it. -/
theorem pollKey_forgetWait (m : Machine) (x : Register) (key? : Option Nibble) :
    m.forgetWait.pollKey x key? = (m.takeKey x key?).forgetWait := by
  cases key? <;> rfl

/-- **An instruction does not look at the note,** and only the one that asks for a key makes
one. -/
theorem executePolling_forgetWait (m : Machine) (ins : Instruction) :
    m.forgetWait.executePolling ins = ((m.execute ins).1.forgetWait, (m.execute ins).2) := by
  cases hk : ins.kind <;> simp only [executePolling, execute, hk, skipIf_eq_setPc]
  case call => exact m.call_forgetWait ins.nnn
  case returnFromCall => exact m.comeBack_forgetWait
  case awaitKey => rw [← pollKey_forgetWait]; rfl
  all_goals rfl

/-! ### What a machine waits at -/

/-- While a machine waits for a register it is not halted, and it stands at the instruction that
asks for a key for this register. -/
def WaitsAtInstruction (m : Machine) : Prop :=
  ∀ register, m.regs.keyWait = some register →
    m.halted = false ∧ m.nextInstruction.kind = .awaitKey ∧
      (m.nextInstruction.x.val : Int) = register

/-- A machine that does not wait waits nowhere else. -/
theorem waitsAtInstruction_of_running (hw : m.regs.keyWait = none) : m.WaitsAtInstruction := by
  intro register hregister
  rw [hw] at hregister
  cases hregister

/-- The end of a cycle does not touch the registers. -/
theorem regs_conclude (pc : Int) (ins : Instruction) (result : Machine × Option Stop) :
    (conclude pc ins result).1.regs = result.1.regs := by
  rcases result with ⟨n, _ | f | e⟩ <;> rfl

/-- A machine that begins to wait has gone back to the instruction it comes from. -/
theorem waitsAtInstruction_takeKey {ins : Instruction} (hins : m.nextInstruction = ins)
    (hk : ins.kind = .awaitKey) (hh : m.halted = false) (hw : m.regs.keyWait = none)
    (key? : Option Nibble) : ((m.past ins).takeKey ins.x key?).WaitsAtInstruction := by
  cases key? with
  | some key => exact waitsAtInstruction_of_running hw
  | none =>
    have hmemory : ((m.past ins).takeKey ins.x none).memory = m.memory := rfl
    have hpc : ((m.past ins).takeKey ins.x none).regs.pc % 4096 = m.regs.pc % 4096 := by
      simp only [takeKey, past, setPc, Instruction.length]
      omega
    have hnext : ((m.past ins).takeKey ins.x none).nextInstruction = ins :=
      (nextInstruction_congr hmemory hpc).trans hins
    rintro register ⟨rfl⟩
    exact ⟨hh, by rw [hnext]; exact hk, by rw [hnext]⟩

/-- A cycle at an instruction that asks for a key. -/
theorem executeCycle_of_awaitKey (hk : m.nextInstruction.kind = .awaitKey) :
    m.executeCycle =
      ((m.past m.nextInstruction).takeKey m.nextInstruction.x m.pressedKey).answer
        (.executed m.regs.pc m.nextInstruction) none := by
  have hn : ((m.past m.nextInstruction).execute m.nextInstruction).2 = none := by
    simp only [execute, hk]
  rw [executeCycle_of_carriedOut hn]
  simp only [execute, hk]
  rfl

/-- A cycle that carries out an instruction leaves a machine waiting only at the one that asks for a
key. -/
theorem WaitsAtInstruction.executeCycle (hh : m.halted = false) (hw : m.regs.keyWait = none) :
    m.executeCycle.1.WaitsAtInstruction := by
  by_cases hk : m.nextInstruction.kind = .awaitKey
  · rw [executeCycle_of_awaitKey hk]
    exact waitsAtInstruction_takeKey rfl hk hh hw _
  · refine waitsAtInstruction_of_running ?_
    rw [Machine.executeCycle, regs_conclude, keyWait_execute hk]
    exact hw

/-- **A cycle keeps the note and the instruction together.** -/
theorem WaitsAtInstruction.cycle (h : m.WaitsAtInstruction) : m.cycle.1.WaitsAtInstruction := by
  cases hh : m.halted with
  | true =>
    rw [cycle_of_halted hh]
    exact h
  | false =>
    cases hw : m.regs.keyWait with
    | none =>
      rw [cycle_of_running hh hw]
      exact executeCycle hh hw
    | some register =>
      rw [cycle_of_waiting hh hw]
      cases m.pressedKey with
      | none => exact h
      | some key =>
        simp only [awaitCycle]
        cases Registers.slot? register with
        | none => exact h
        | some x => exact waitsAtInstruction_of_running rfl

/-- No call of a host brings a machine to wait elsewhere. -/
theorem WaitsAtInstruction.serve (h : m.WaitsAtInstruction) (c : HostCall) :
    (m.serve c).1.WaitsAtInstruction := by
  have hstart : ∀ {n : Machine}, n.regs = {} → n.WaitsAtInstruction := fun hn =>
    waitsAtInstruction_of_running (by rw [hn])
  exact serve_preserves h (fun _ _ => hstart rfl) (hstart rfl) h.cycle h (fun _ => h) (fun _ => h) c

/-! ### Cycles and sessions -/

/-- How a cycle is concluded does not depend on the wait. -/
theorem conclude_forgetWait (pc : Int) (ins : Instruction) (m : Machine) (stop : Option Stop) :
    (conclude pc ins (m.forgetWait, stop)).1 = (conclude pc ins (m, stop)).1.forgetWait := by
  rcases stop with _ | f | e <;> rfl

/-- The polling machine's cycle, told from the machine with the note. -/
theorem cyclePolling_forgetWait (hh : m.halted = false) :
    m.forgetWait.cyclePolling.1 = m.executeCycle.1.forgetWait := by
  have hexecute := (m.past m.nextInstruction).executePolling_forgetWait m.nextInstruction
  have hpolling : m.forgetWait.cyclePolling = conclude m.regs.pc m.nextInstruction
      ((m.past m.nextInstruction).forgetWait.executePolling m.nextInstruction) := by
    unfold cyclePolling
    rw [show m.forgetWait.halted = false from hh]
    rfl
  rw [hpolling, hexecute, conclude_forgetWait]
  rfl

/-- Standing still and going back to where one came from are the same. -/
theorem cycle_of_waiting_eq (h : m.WaitsAtInstruction) (hb : m.Bounded) {register : Int}
    (hw : m.regs.keyWait = some register) : m.cycle.1.forgetWait = m.executeCycle.1.forgetWait := by
  obtain ⟨hh, hk, hx⟩ := h register hw
  obtain ⟨hpc₀, hpc₁⟩ := hb.regs.pc
  have hslot : Registers.slot? register = some m.nextInstruction.x := by
    rw [← hx, Registers.slot?_of_nonneg (by omega), Nibble.ofInt?_eq_some]
  rw [cycle_of_waiting hh hw, executeCycle_of_awaitKey hk]
  cases m.pressedKey with
  | some key =>
    simp only [awaitCycle, hslot]
    rfl
  | none =>
    have hback : ((m.regs.pc + m.nextInstruction.length) % 65536 - 2) % 65536 = m.regs.pc := by
      rw [Instruction.length]
      omega
    simp only [awaitCycle, takeKey, past, setPc, answer, forgetWait, hback]

/-- **One cycle of the polling machine is one of the machine that waits,** but for the note. -/
theorem WaitsAtInstruction.cyclePolling_eq (h : m.WaitsAtInstruction) (hb : m.Bounded) :
    m.forgetWait.cyclePolling.1 = m.cycle.1.forgetWait := by
  cases hh : m.halted with
  | true =>
    rw [cycle_of_halted hh, cyclePolling, if_pos (show m.forgetWait.halted = true from hh)]
    rfl
  | false =>
    rw [cyclePolling_forgetWait hh]
    cases hw : m.regs.keyWait with
    | none => rw [cycle_of_running hh hw]
    | some register => exact (cycle_of_waiting_eq h hb hw).symm

/-- **One call does the same to both machines,** but for the note. -/
theorem WaitsAtInstruction.servePolling_eq (h : m.WaitsAtInstruction) (hb : m.Bounded)
    (c : HostCall) : (m.forgetWait.servePolling c).1 = (m.serve c).1.forgetWait := by
  cases c with
  | cycle => exact h.cyclePolling_eq hb
  | load program =>
    rcases serve_load program with ⟨e, he⟩ | hok
    · simp only [servePolling, he]
    · simp only [servePolling, hok]
      rfl
  | keyDown code =>
    rcases serve_keyDown code with ⟨e, he⟩ | ⟨key, hkey⟩
    · simp only [servePolling, he]
    · simp only [servePolling, hkey]
      rfl
  | keyUp code =>
    rcases serve_keyUp code with ⟨e, he⟩ | ⟨key, hkey⟩
    · simp only [servePolling, he]
    · simp only [servePolling, hkey]
      rfl
  | togglePixel x y =>
    rcases serve_togglePixel x y with ⟨e, he⟩ | ⟨p, hp⟩
    · simp only [servePolling, he]
    · simp only [servePolling, hp]
      rfl
  | reset | tick | releaseKeys | takeDirty | frame | clearScreen => rfl

/-- A machine that polls goes through a session as one that waits does, but for the note of the
wait. -/
theorem WaitsAtInstruction.runPolling_eq (h : m.WaitsAtInstruction) (hb : m.Bounded)
    (calls : List HostCall) : m.forgetWait.runPolling calls = (m.run calls).forgetWait := by
  induction calls generalizing m with
  | nil => rfl
  | cons c calls ih =>
    rw [run_cons, ← ih (h.serve c) (hb.serve c), ← h.servePolling_eq hb c]
    rfl

/-- **The key wait refines polling.**  After any calls to a new machine and to a new polling one,
all but the note is the same.  And a machine that waits is not halted, and the word under its
program counter is the instruction that asks for a key for the noted register. -/
theorem runPolling_new_eq_forgetWait (keyScan : KeyScan) (seed : Option Int)
    (calls : List HostCall) :
    let m := (new keyScan seed).run calls
    (new keyScan seed).runPolling calls = m.forgetWait ∧
      ∀ register, m.regs.keyWait = some register →
        m.halted = false ∧ m.nextInstruction.kind = .awaitKey ∧
          (m.nextInstruction.x.val : Int) = register := by
  have h : (new keyScan seed).WaitsAtInstruction := waitsAtInstruction_of_running rfl
  refine ⟨h.runPolling_eq (bounded_new keyScan seed) calls, ?_⟩
  exact run_preserves (P := WaitsAtInstruction) (fun _ c h => h.serve c) _ calls h

end Machine
end Chip8
