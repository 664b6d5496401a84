/-
# One cycle

A cycle does one of four things: it finds the machine halted, it finds it
waiting for a key that is still up, it hands over the key that was waited for,
or it fetches, decodes and executes an instruction.  A waiting machine stands at
the instruction that waits and does not fetch it again.

Every cycle is counted and answered with a `Snapshot`.  A fault does not escape:
it halts the machine, goes on record, and is part of the snapshot.  The text
that a host shows for a cycle (`Activity.description`) is a function of what the
cycle did.
-/

import Chip8.Machine.Execute

namespace Chip8

/-- What a cycle did, and where the program counter stood before it. -/
inductive Activity where
  /-- It carried out an instruction. -/
  | executed (pc : Int) (ins : Instruction)
  /-- The machine is halted. -/
  | halted (pc : Int)
  /-- The machine waits for a key for a register. -/
  | waiting (pc register : Int)
  /-- The key came. -/
  | resumed (pc register : Int) (key : Nibble)
  deriving DecidableEq, Repr

namespace Activity

/-- The instruction that was carried out, if there was one. -/
def instruction? : Activity → Option Instruction
  | .executed _ ins => some ins
  | _ => none

/-- One line for a host to show: the address, and the instruction or what happened in its
place. -/
def description : Activity → String
  | .executed pc ins => s!"{Text.wordHex pc}: {ins.text}"
  | .halted pc => s!"{Text.wordHex pc}: HALT (fault)"
  | .waiting pc register => s!"{Text.wordHex pc}: LD V{Text.upperHex 0 register}, K (waiting)"
  | .resumed pc register key =>
    s!"{Text.wordHex pc}: LD V{Text.upperHex 0 register}, K (key {Text.upperHex 0 key.val})"

end Activity

/-- The answer to a cycle. -/
structure Snapshot where
  activity : Activity
  /-- Cycles since the last reset or load, this one included. -/
  count : Nat
  /-- The fault that has stopped the program. -/
  fault : Option Fault
  deriving DecidableEq, Repr

/-- A cycle that broke off at a slot that does not exist.  It is not counted. -/
structure CycleError where
  activity : Activity
  error : SlotError
  deriving DecidableEq, Repr

namespace Machine

/-- Counts a cycle and answers it. -/
def answer (m : Machine) (activity : Activity) (fault : Option Fault) :
    Machine × Except CycleError Snapshot :=
  ({ m with cycles := m.cycles + 1 }, .ok ⟨activity, m.cycles + 1, fault⟩)

/-- The instruction at the program counter. -/
def nextInstruction (m : Machine) : Instruction := .decode (m.memory.wordAt m.regs.pc)

/-- The cycle of a machine that waits for a key for a register, given the key that is found
down. -/
def awaitCycle (m : Machine) (register : Int) : Option Nibble → Machine × Except CycleError Snapshot
  | none => m.answer (.waiting m.regs.pc register) none
  | some key =>
    let pc := m.regs.pc
    match Registers.slot? register with
    | none => (m, .error ⟨.waiting pc register, .ofNumber register .store⟩)
    | some x =>
      let m := m.setV x (UInt8.ofNat key.val)
      { m with regs := { m.regs with keyWait := none, pc := (pc + 2) % 65536 } }.answer
        (.resumed pc register key) none

/-- The machine with the program counter past an instruction that is about to be carried out. -/
def past (m : Machine) (ins : Instruction) : Machine :=
  m.setPc ((m.regs.pc + ins.length) % 65536)

/-- Ends the cycle of an instruction at an address, given what the instruction came to. -/
def conclude (pc : Int) (ins : Instruction) :
    Machine × Option Stop → Machine × Except CycleError Snapshot
  | (m, none) => m.answer (.executed pc ins) none
  | (m, some (.fault f)) =>
    { m with halted := true, fault := some f, faultText := some f.message }.answer
      (.executed pc ins) (some f)
  | (m, some (.slot e)) => (m, .error ⟨.executed pc ins, e⟩)

/-- The cycle of a machine that goes on with its program. -/
def executeCycle (m : Machine) : Machine × Except CycleError Snapshot :=
  let ins := m.nextInstruction
  conclude m.regs.pc ins ((m.past ins).execute ins)

/-- One cycle. -/
def cycle (m : Machine) : Machine × Except CycleError Snapshot :=
  if m.halted then m.answer (.halted m.regs.pc) m.fault
  else match m.regs.keyWait with
    | some register => m.awaitCycle register m.pressedKey
    | none => m.executeCycle

variable {m : Machine}

/-- The next instruction depends on the low twelve bits of the program counter. -/
theorem nextInstruction_congr {n : Machine} (hmemory : m.memory = n.memory)
    (hpc : m.regs.pc % 4096 = n.regs.pc % 4096) : m.nextInstruction = n.nextInstruction := by
  rw [nextInstruction, nextInstruction, hmemory, n.memory.wordAt_congr hpc]

/-- A cycle that carries out its instruction leaves what the instruction has made of the machine
behind, and answers with the instruction. -/
theorem executeCycle_of_carriedOut
    (hn : ((m.past m.nextInstruction).execute m.nextInstruction).2 = none) :
    m.executeCycle = ((m.past m.nextInstruction).execute m.nextInstruction).1.answer
      (.executed m.regs.pc m.nextInstruction) none := by
  rcases hr : (m.past m.nextInstruction).execute m.nextInstruction with ⟨n, stop⟩
  rw [hr] at hn
  cases hn
  simp only [executeCycle, hr]
  rfl

/-- A halted machine tells that it is halted, and of which fault. -/
theorem cycle_of_halted (h : m.halted = true) :
    m.cycle = m.answer (.halted m.regs.pc) m.fault := by
  rw [cycle, if_pos h]

/-- A machine that waits for a key looks at the keypad and at nothing else. -/
theorem cycle_of_waiting (h : m.halted = false) {register : Int}
    (hw : m.regs.keyWait = some register) : m.cycle = m.awaitCycle register m.pressedKey := by
  simp only [cycle, h, hw, Bool.false_eq_true, if_false]

/-- A machine that neither is halted nor waits carries out an instruction. -/
theorem cycle_of_running (h : m.halted = false) (hw : m.regs.keyWait = none) :
    m.cycle = m.executeCycle := by
  simp only [cycle, h, hw, Bool.false_eq_true, if_false]

end Machine
end Chip8
