/-
# Decoding opcodes

The top four bits of an opcode select its family.  Most families hold one kind
of instruction; the others are told apart by the lowest four bits (families `0`
and `8`) or by the low byte (families `E` and `F`), and bits that play no part
are ignored.  An opcode that matches nothing decodes to `nop`, so decoding never
fails.
-/

import Chip8.Instruction

namespace Chip8

/-- The kind of an opcode of 16 bits. -/
def Kind.ofOpcode (opcode : Nat) : Kind :=
  match opcode / 4096 with
  | 0x0 =>
    match opcode % 16 with
    | 0x0 => .clearScreen
    | 0xE => .returnFromCall
    | _ => .nop
  | 0x1 => .jump
  | 0x2 => .call
  | 0x3 => .skipEqByte
  | 0x4 => .skipNeByte
  | 0x5 => .skipEqReg
  | 0x6 => .setByte
  | 0x7 => .addByte
  | 0x8 =>
    match opcode % 16 with
    | 0x0 => .copy
    | 0x1 => .or
    | 0x2 => .and
    | 0x3 => .xor
    | 0x4 => .add
    | 0x5 => .subtract
    | 0x6 => .shiftRight
    | 0x7 => .subtractFrom
    | 0xE => .shiftLeft
    | _ => .nop
  | 0x9 => .skipNeReg
  | 0xA => .setIndex
  | 0xB => .jumpOffset
  | 0xC => .random
  | 0xD => .draw
  | 0xE =>
    match opcode % 256 with
    | 0x9E => .skipKeyDown
    | 0xA1 => .skipKeyUp
    | _ => .nop
  | 0xF =>
    match opcode % 256 with
    | 0x07 => .readDelay
    | 0x0A => .awaitKey
    | 0x15 => .setDelay
    | 0x18 => .setSound
    | 0x1E => .addIndex
    | 0x29 => .fontIndex
    | 0x33 => .storeDigits
    | 0x55 => .storeRegisters
    | 0x65 => .loadRegisters
    | _ => .nop
  | _ => .nop

namespace Instruction

/-- The instruction of an opcode; of a number outside 16 bits the low 16 bits count. -/
def decode (opcode : Int) : Instruction :=
  let word := opcode % 65536
  ⟨Kind.ofOpcode word.toNat, word⟩

/-- Of an opcode the low 16 bits are kept. -/
@[simp] theorem opcode_decode (opcode : Int) : (decode opcode).opcode = opcode % 65536 := rfl

/-- How often each kind occurs among the opcodes `start … stop - 1`, in the order of the kinds'
names; kinds that do not occur are left out. -/
def census (start stop : Int) : List (Kind × Nat) :=
  let kinds :=
    (List.range (stop - start).toNat).map fun k : Nat => (decode (start + (k : Int))).kind
  let counts := (Kind.all.map fun kind => (kind, kinds.count kind)).filter (·.2 ≠ 0)
  counts.mergeSort fun a b => decide (a.1.name ≤ b.1.name)

end Instruction
end Chip8
