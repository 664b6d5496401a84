/-
# Instructions

An instruction is a kind and the opcode it came from.  Operands are read off
the opcode at fixed places:

| operand | bits | meaning |
| --- | --- | --- |
| `x` | 8–11 | a register |
| `y` | 4–7 | a register |
| `n` | 0–3 | a count of sprite rows |
| `kk` | 0–7 | a byte |
| `nnn` | 0–11 | an address |

The opcode may be any integer, since an instruction can be put together by hand;
operands take its low bits, two's complement if it is negative.  The assembler
text of an instruction is its mnemonic and its operand texts.
-/

import Chip8.Cells
import Chip8.Memory
import Chip8.Text.Hex

namespace Chip8

/-- What an instruction does. -/
inductive Kind where
  | clearScreen | returnFromCall
  | jump | call
  | skipEqByte | skipNeByte | skipEqReg
  | setByte | addByte
  | copy | or | and | xor | add | subtract | shiftRight | subtractFrom | shiftLeft
  | skipNeReg
  | setIndex | jumpOffset | random | draw
  | skipKeyDown | skipKeyUp
  | readDelay | awaitKey | setDelay | setSound | addIndex | fontIndex
  | storeDigits | storeRegisters | loadRegisters
  /-- No known opcode; nothing happens. -/
  | nop
  deriving DecidableEq, Repr

namespace Kind

/-- Every kind, in the order of the opcodes. -/
def all : List Kind :=
  [.clearScreen, .returnFromCall, .jump, .call, .skipEqByte, .skipNeByte, .skipEqReg, .setByte,
    .addByte, .copy, .or, .and, .xor, .add, .subtract, .shiftRight, .subtractFrom, .shiftLeft,
    .skipNeReg, .setIndex, .jumpOffset, .random, .draw, .skipKeyDown, .skipKeyUp, .readDelay,
    .awaitKey, .setDelay, .setSound, .addIndex, .fontIndex, .storeDigits, .storeRegisters,
    .loadRegisters, .nop]

/-- No kind is missing from the list of all. -/
theorem mem_all (k : Kind) : k ∈ all := by cases k <;> decide

/-- The name of a kind in the machine's log. -/
def name : Kind → String
  | .clearScreen => "CLS"
  | .returnFromCall => "RET"
  | .jump => "JP"
  | .call => "CALL"
  | .skipEqByte => "SE_VX_KK"
  | .skipNeByte => "SNE_VX_KK"
  | .skipEqReg => "SE_VX_VY"
  | .setByte => "LD_VX_KK"
  | .addByte => "ADD_VX_KK"
  | .copy => "LD_VX_VY"
  | .or => "OR"
  | .and => "AND"
  | .xor => "XOR"
  | .add => "ADD_VX_VY"
  | .subtract => "SUB"
  | .shiftRight => "SHR"
  | .subtractFrom => "SUBN"
  | .shiftLeft => "SHL"
  | .skipNeReg => "SNE_VX_VY"
  | .setIndex => "LD_I_NNN"
  | .jumpOffset => "JP_V0"
  | .random => "RND"
  | .draw => "DRW"
  | .skipKeyDown => "SKP"
  | .skipKeyUp => "SKNP"
  | .readDelay => "LD_VX_DT"
  | .awaitKey => "LD_VX_K"
  | .setDelay => "LD_DT_VX"
  | .setSound => "LD_ST_VX"
  | .addIndex => "ADD_I_VX"
  | .fontIndex => "LD_F_VX"
  | .storeDigits => "LD_B_VX"
  | .storeRegisters => "LD_MEM_VX"
  | .loadRegisters => "LD_VX_MEM"
  | .nop => "NOP"

/-- The opcode pattern of a kind, with letters for the operands. -/
def pattern : Kind → String
  | .clearScreen => "00E0"
  | .returnFromCall => "00EE"
  | .jump => "1nnn"
  | .call => "2nnn"
  | .skipEqByte => "3xkk"
  | .skipNeByte => "4xkk"
  | .skipEqReg => "5xy0"
  | .setByte => "6xkk"
  | .addByte => "7xkk"
  | .copy => "8xy0"
  | .or => "8xy1"
  | .and => "8xy2"
  | .xor => "8xy3"
  | .add => "8xy4"
  | .subtract => "8xy5"
  | .shiftRight => "8xy6"
  | .subtractFrom => "8xy7"
  | .shiftLeft => "8xyE"
  | .skipNeReg => "9xy0"
  | .setIndex => "Annn"
  | .jumpOffset => "Bnnn"
  | .random => "Cxkk"
  | .draw => "Dxyn"
  | .skipKeyDown => "Ex9E"
  | .skipKeyUp => "ExA1"
  | .readDelay => "Fx07"
  | .awaitKey => "Fx0A"
  | .setDelay => "Fx15"
  | .setSound => "Fx18"
  | .addIndex => "Fx1E"
  | .fontIndex => "Fx29"
  | .storeDigits => "Fx33"
  | .storeRegisters => "Fx55"
  | .loadRegisters => "Fx65"
  | .nop => "----"

/-- The kind of a log name. -/
def ofName? (s : String) : Option Kind := all.find? (·.name = s)

/-- The assembler's word for a kind. -/
def mnemonic : Kind → String
  | .clearScreen => "CLS"
  | .returnFromCall => "RET"
  | .jump | .jumpOffset => "JP"
  | .call => "CALL"
  | .skipEqByte | .skipEqReg => "SE"
  | .skipNeByte | .skipNeReg => "SNE"
  | .setByte | .copy | .setIndex | .readDelay | .awaitKey | .setDelay | .setSound | .fontIndex
  | .storeDigits | .storeRegisters | .loadRegisters => "LD"
  | .addByte | .add | .addIndex => "ADD"
  | .or => "OR"
  | .and => "AND"
  | .xor => "XOR"
  | .subtract => "SUB"
  | .shiftRight => "SHR"
  | .subtractFrom => "SUBN"
  | .shiftLeft => "SHL"
  | .random => "RND"
  | .draw => "DRW"
  | .skipKeyDown => "SKP"
  | .skipKeyUp => "SKNP"
  | .nop => "NOP"

end Kind

/-- A register `V0 … VF`. -/
abbrev Register := Nibble

/-- A kind together with the opcode that holds the operands. -/
structure Instruction where
  kind : Kind
  opcode : Int
  deriving DecidableEq, Repr

namespace Instruction

/-- The register in bits 8–11. -/
def x (ins : Instruction) : Register := Nibble.low (ins.opcode / 256)

/-- The register in bits 4–7. -/
def y (ins : Instruction) : Register := Nibble.low (ins.opcode / 16)

/-- The number in bits 0–3. -/
def n (ins : Instruction) : Nibble := Nibble.low ins.opcode

/-- The byte in bits 0–7. -/
def kk (ins : Instruction) : UInt8 := UInt8.ofNat (ins.opcode % 256).toNat

/-- The address in bits 0–11. -/
def nnn (ins : Instruction) : Address := Address.wrap ins.opcode

/-- Every instruction takes two bytes of a program. -/
def length (_ : Instruction) : Nat := 2

/-- The name of a register. -/
def registerText (r : Register) : String := "V" ++ Text.upperHex 0 r.val

/-- A byte operand. -/
def byteText (b : UInt8) : String := "#" ++ Text.upperHex 2 b.toNat

/-- An address operand. -/
def addressText (a : Address) : String := "$" ++ Text.upperHex 3 a.val

/-- The assembler's word. -/
def mnemonic (ins : Instruction) : String := ins.kind.mnemonic

/-- The operand texts from left to right. -/
def operands (ins : Instruction) : List String :=
  let x := registerText ins.x
  let y := registerText ins.y
  match ins.kind with
  | .clearScreen | .returnFromCall => []
  | .jump | .call => [addressText ins.nnn]
  | .skipEqByte | .skipNeByte | .setByte | .addByte | .random => [x, byteText ins.kk]
  | .skipEqReg | .skipNeReg | .copy | .or | .and | .xor | .add | .subtract | .subtractFrom => [x, y]
  | .shiftRight | .shiftLeft | .skipKeyDown | .skipKeyUp => [x]
  | .setIndex => ["I", addressText ins.nnn]
  | .jumpOffset => ["V0", addressText ins.nnn]
  | .draw => [x, y, toString ins.n.val]
  | .readDelay => [x, "DT"]
  | .awaitKey => [x, "K"]
  | .setDelay => ["DT", x]
  | .setSound => ["ST", x]
  | .addIndex => ["I", x]
  | .fontIndex => ["F", x]
  | .storeDigits => ["B", x]
  | .storeRegisters => ["[I]", x]
  | .loadRegisters => [x, "[I]"]
  | .nop => ["$" ++ Text.upperHex 4 ins.opcode]

/-- Mnemonic and operands on one line. -/
def text (ins : Instruction) : String :=
  if ins.operands.isEmpty then ins.mnemonic
  else ins.mnemonic ++ " " ++ ", ".intercalate ins.operands

end Instruction
end Chip8
