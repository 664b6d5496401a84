/-
# The register file

Sixteen byte registers, the index register, the program counter, and a stack of
sixteen return addresses with its pointer.  While a program waits for a key,
`keyWait` names the register that will receive it.

Instructions keep the index register and the program counter within 16 bits and
the stack pointer within `0 … 16`, but the host may put any integer there, so
they are integers.  The sixteen stack slots can also be named from the end, the
last one as `-1`; a pointer outside `-16 … 15` names none.

A fault is the one kind of failure that stops a program for good: a call with the
stack full, a return with the stack empty.  The machine then stays halted with the
fault on record until the host resets it or loads another program.  An unknown
opcode is no fault, nor is waiting for a key.
-/

import Chip8.Instruction

namespace Chip8

/-! ### Faults -/

/-- Why a program cannot go on, or cannot be loaded. -/
inductive Fault where
  /-- A call with the stack full: the address it wanted to keep, and the stack's depth. -/
  | stackOverflow (address depth : Int)
  /-- A return with the stack empty, and where the program counter stood. -/
  | stackUnderflow (pc : Int)
  /-- A program longer than the memory above `0x200`. -/
  | programTooLarge (size capacity : Int)
  deriving DecidableEq, Repr

/-- What a fault is, apart from the numbers in its wording. -/
inductive FaultKind where
  | stackOverflow | stackUnderflow | programTooLarge
  deriving DecidableEq, Repr

/-- The kind of a fault. -/
def Fault.kind : Fault → FaultKind
  | .stackOverflow _ _ => .stackOverflow
  | .stackUnderflow _ => .stackUnderflow
  | .programTooLarge _ _ => .programTooLarge

/-- The wording of a fault. -/
def Fault.message : Fault → String
  | .stackOverflow address depth =>
    s!"Stack overflow: cannot push return address {Text.wordHex address} (depth {depth})."
  | .stackUnderflow pc => s!"Stack underflow: RET with empty stack (pc={Text.wordHex pc})."
  | .programTooLarge size capacity =>
    s!"Program of {size} bytes exceeds the {capacity} bytes available at 0x200."

/-! ### Slots -/

/-- The access to a stack slot or a register that does not exist. -/
inductive SlotError where
  | load
  | store
  /-- Its number does not fit into 64 bits. -/
  | notIndex
  deriving DecidableEq, Repr

/-- The wording of the refusal. -/
def SlotError.message : SlotError → String
  | .load => "list index out of range"
  | .store => "list assignment index out of range"
  | .notIndex => Cells.notIndex

/-- The refusal of a slot by its number, where a number that can be one is refused by `e`. -/
def SlotError.ofNumber (k : Int) (e : SlotError) : SlotError :=
  if Cells.isIndex k then e else .notIndex

/-- What can break off an instruction: a fault of the program, or a slot that does not exist,
which happens only after the host has put the stack pointer out of range. -/
inductive Stop where
  | fault (f : Fault)
  | slot (e : SlotError)
  deriving DecidableEq, Repr

/-- What a program can see of the processor. -/
structure Registers where
  v : Vector UInt8 16 := Vector.replicate 16 0
  i : Int := 0
  pc : Int := 0x200
  sp : Int := 0
  stack : Vector UInt16 16 := Vector.replicate 16 0
  keyWait : Option Int := none
  deriving DecidableEq, Repr

namespace Registers

/-- The slot that an integer names: from the start if it is not negative, else from the end. -/
def slot? (k : Int) : Option Nibble := Nibble.ofInt? (if k < 0 then k + 16 else k)

/-- Numbers that are not negative count the slots from the front. -/
theorem slot?_of_nonneg {k : Int} (h : 0 ≤ k) : slot? k = Nibble.ofInt? k := by
  simp [slot?, Int.not_lt.2 h]

/-- The numbers below sixteen all have a slot. -/
theorem slot?_of_lt {k : Int} (h₀ : 0 ≤ k) (h : k < 16) : slot? k = some (Nibble.low k) := by
  rw [slot?_of_nonneg h₀, Nibble.ofInt?_eq_low h₀ h]

/-- The content of a byte register. -/
def get (r : Registers) (x : Register) : UInt8 := Cells.get r.v x

/-- The registers with one byte register replaced. -/
def set (r : Registers) (x : Register) (b : UInt8) : Registers := { r with v := Cells.set r.v x b }

/-- A register that is set holds what it was set to. -/
@[simp] theorem get_set_self (r : Registers) (x : Register) (b : UInt8) :
    (r.set x b).get x = b := by simp [get, set]

/-- To set a register leaves the others. -/
theorem get_set (r : Registers) (x z : Register) (b : UInt8) :
    (r.set x b).get z = if x = z then b else r.get z :=
  Cells.get_set r.v x z b

/-- The register that instructions use for carry, borrow, shifted bit and collision. -/
def flag : Register := 15

/-- The register whose content an offset jump adds to its address. -/
def base : Register := 0

/-- The flag register takes the low byte of what the host puts there. -/
def setFlag (r : Registers) (value : Int) : Registers :=
  r.set flag (UInt8.ofNat (value % 256).toNat)

/-- Whether the processor waits for a key. -/
def waiting (r : Registers) : Bool := r.keyWait.isSome

/-- Puts the low 16 bits of an address on the stack, which holds sixteen. -/
def push (r : Registers) (address : Int) : Registers × Option Stop :=
  if 16 ≤ r.sp then (r, some (.fault (.stackOverflow address 16)))
  else match slot? r.sp with
    | none => (r, some (.slot (.ofNumber r.sp .store)))
    | some k =>
      let kept := UInt16.ofNat (address % 65536).toNat
      ({ r with stack := Cells.set r.stack k kept, sp := r.sp + 1 }, none)

/-- Takes the last address off the stack.  Its slot keeps the value. -/
def pop (r : Registers) : Registers × Except Stop UInt16 :=
  if r.sp = 0 then (r, .error (.fault (.stackUnderflow r.pc)))
  else
    let r := { r with sp := r.sp - 1 }
    match slot? r.sp with
    | none => (r, .error (.slot (.ofNumber r.sp .load)))
    | some k => (r, .ok (Cells.get r.stack k))

/-- What is kept of an address on the stack. -/
theorem toNat_kept (address : Int) :
    ((UInt16.ofNat (address % 65536).toNat).toNat : Int) = address % 65536 := by
  rw [UInt16.toNat_ofNat']
  omega

/-- On a full stack a push overflows and changes nothing. -/
theorem push_full {r : Registers} (h : 16 ≤ r.sp) (address : Int) :
    r.push address = (r, some (.fault (.stackOverflow address 16))) := by
  rw [push, if_pos h]

/-- Where there is room, a push stores the low 16 bits of its address in the slot at the pointer and
moves the pointer on. -/
theorem push_of_room {r : Registers} (h₀ : 0 ≤ r.sp) (h : r.sp < 16) (address : Int) :
    r.push address =
      ({ r with
          stack := Cells.set r.stack (Nibble.low r.sp) (UInt16.ofNat (address % 65536).toNat),
          sp := r.sp + 1 }, none) := by
  rw [push, if_neg (by omega), slot?_of_lt h₀ h]

/-- On an empty stack a pop underflows and changes nothing. -/
theorem pop_empty {r : Registers} (h : r.sp = 0) :
    r.pop = (r, .error (.fault (.stackUnderflow r.pc))) := by
  rw [pop, if_pos h]

/-- A pop moves the pointer back and gives what is in the slot there; the slot keeps it. -/
theorem pop_of_pos {r : Registers} (h₀ : 0 < r.sp) (h : r.sp ≤ 16) :
    r.pop = ({ r with sp := r.sp - 1 }, .ok (Cells.get r.stack (Nibble.low (r.sp - 1)))) := by
  rw [pop, if_neg (by omega)]
  simp only [slot?_of_lt (show 0 ≤ r.sp - 1 by omega) (by omega)]

end Registers
end Chip8
