/-
# The machine's log

What a host may log while it works with a machine, each event with a level and a
wording.  Events are not part of a machine's state: those of a cycle can be read
off its answer.
-/

import Chip8.Machine.Cycle

namespace Chip8

/-- How urgent an event is. -/
inductive Level where
  | debug | info | warning | error
  deriving DecidableEq, Repr

/-- The name of a level. -/
def Level.name : Level → String
  | .debug => "DEBUG"
  | .info => "INFO"
  | .warning => "WARNING"
  | .error => "ERROR"

/-- Something worth a line in the log. -/
inductive Event where
  /-- An instruction is about to be carried out. -/
  | executing (ins : Instruction)
  /-- It was an unknown opcode. -/
  | unknownOpcode (opcode : Int)
  /-- The key that was waited for came; the program goes on at an address. -/
  | keyStored (key : Nibble) (register pc : Int)
  /-- A fault at an address stopped the program. -/
  | halted (pc : Int) (fault : Fault)
  /-- A program of a size was loaded. -/
  | programLoaded (size : Nat)
  /-- A program file has nothing in it. -/
  | fileEmpty (name : String)
  /-- A program file was loaded. -/
  | fileLoaded (name : String) (size : Nat)
  /-- A machine was built from a configuration. -/
  | machineBuilt (keyScan : KeyScan) (seed : Option Int)
  /-- A scheduler met a fault. -/
  | faultScheduled (fault : Fault)
  deriving DecidableEq, Repr

namespace Event

/-- How urgent it is. -/
def level : Event → Level
  | .executing _ | .unknownOpcode _ | .keyStored .. => .debug
  | .programLoaded _ | .fileLoaded .. | .machineBuilt .. => .info
  | .fileEmpty _ => .warning
  | .halted .. | .faultScheduled _ => .error

/-- The wording. -/
def message : Event → String
  | .executing ins => s!"{ins.kind.name}: {Text.wordHex ins.opcode}"
  | .unknownOpcode opcode => s!"No Op: {Text.wordHex opcode}"
  | .keyStored key register pc =>
    s!"Key {Text.upperHex 0 key.val} stored in V{Text.upperHex 0 register}, resuming at " ++
      Text.wordHex pc
  | .halted pc fault => s!"Execution halted at {Text.wordHex pc}: {fault.message}"
  | .programLoaded size => s!"Loaded {size} byte program at {Text.addressHex Machine.programStart}"
  | .fileEmpty name => s!"ROM file {name} is empty"
  | .fileLoaded name size => s!"Loaded ROM {name} ({size} bytes)"
  | .machineBuilt keyScan seed =>
    let seedText := match seed with
      | none => "None"
      | some n => toString n
    s!"Built Chip-8 machine (key_scan={keyScan.name}, rng_seed={seedText})"
  | .faultScheduled fault => s!"CPU halted by fault: {fault.message}"

/-- The events of one instruction. -/
def ofInstruction (ins : Instruction) : List Event :=
  .executing ins :: (if ins.kind = .nop then [.unknownOpcode ins.opcode] else [])

/-- The events of what a cycle did. -/
def ofActivity : Activity → List Event
  | .executed _ ins => ofInstruction ins
  | .halted _ | .waiting .. => []
  | .resumed pc register key => [.keyStored key register ((pc + 2) % 65536)]

/-- The events of a cycle: what it did, and the fault it ran into. -/
def ofCycle : Except CycleError Snapshot → List Event
  | .error e => ofActivity e.activity
  | .ok s =>
    ofActivity s.activity ++
      match s.activity, s.fault with
      | .executed pc _, some fault => [.halted pc fault]
      | _, _ => []

end Event
end Chip8
