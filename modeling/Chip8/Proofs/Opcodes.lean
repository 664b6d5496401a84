/-
# Opcodes by their digits

An opcode of 16 bits is four hexadecimal digits: the family, and then the operands
`x`, `y` and `n`, the last two of which together are the byte `kk` and all three the
address `nnn`.  `Instruction.ofDigits` is the instruction of an opcode that is
written so, and here its operands are read off again.

The kind needs no table of its own.  It is a matter of the family and, for some
families, of the last digit or the last two: `kind_ofDigits` leaves just these to look
at, `kind_ofDigits_of_ne` the last digit alone, and `kind_ofDigits_of_forall` nothing
for a family that holds one kind only.
-/

import Chip8.Instruction.Decode

namespace Chip8
namespace Instruction

/-- The instruction of the opcode with four hexadecimal digits. -/
def ofDigits (f x y n : Nibble) : Instruction :=
  .decode (0x1000 * f.val + 0x100 * x.val + 0x10 * y.val + n.val)

variable (f x y n : Nibble)

/-- An opcode is made up of its four digits. -/
theorem opcode_ofDigits :
    (ofDigits f x y n).opcode = 0x1000 * f.val + 0x100 * x.val + 0x10 * y.val + n.val := by
  rw [ofDigits, opcode_decode]
  omega

/-- The second digit names the first register. -/
@[simp] theorem x_ofDigits : (ofDigits f x y n).x = x := by
  simp only [Instruction.x, opcode_ofDigits, Nibble.low, Fin.ext_iff]
  omega

/-- The third digit names the second register. -/
@[simp] theorem y_ofDigits : (ofDigits f x y n).y = y := by
  simp only [Instruction.y, opcode_ofDigits, Nibble.low, Fin.ext_iff]
  omega

/-- The last digit is a number of its own. -/
@[simp] theorem n_ofDigits : (ofDigits f x y n).n = n := by
  simp only [Instruction.n, opcode_ofDigits, Nibble.low, Fin.ext_iff]
  omega

/-- The last two digits are the byte. -/
@[simp] theorem toNat_kk_ofDigits : (ofDigits f x y n).kk.toNat = 0x10 * y.val + n.val := by
  simp only [kk, opcode_ofDigits, UInt8.toNat_ofNat']
  omega

/-- The last three digits are the address. -/
@[simp] theorem val_nnn_ofDigits :
    (ofDigits f x y n).nnn.val = 0x100 * x.val + (0x10 * y.val + n.val) := by
  simp only [nnn, opcode_ofDigits, Address.wrap]
  omega

/-- The kind depends on the family, on the last digit and on the last two. -/
theorem kind_ofDigits :
    (ofDigits f x y n).kind = .ofOpcode (0x1000 * f.val + 0x10 * y.val + n.val) := by
  have hword : ((0x1000 * (f.val : Int) + 0x100 * x.val + 0x10 * y.val + n.val) % 65536).toNat =
      0x1000 * f.val + 0x100 * x.val + 0x10 * y.val + n.val := by omega
  have hfamily : (0x1000 * f.val + 0x100 * x.val + 0x10 * y.val + n.val) / 4096 =
      (0x1000 * f.val + 0x10 * y.val + n.val) / 4096 := by omega
  have hdigit : (0x1000 * f.val + 0x100 * x.val + 0x10 * y.val + n.val) % 16 =
      (0x1000 * f.val + 0x10 * y.val + n.val) % 16 := by omega
  have hbyte : (0x1000 * f.val + 0x100 * x.val + 0x10 * y.val + n.val) % 256 =
      (0x1000 * f.val + 0x10 * y.val + n.val) % 256 := by omega
  simp only [ofDigits, decode, Kind.ofOpcode, hword, hfamily, hdigit, hbyte]

/-- In all but two families the kind depends on the last digit at most. -/
theorem kind_ofDigits_of_ne (hE : f ≠ 0xE) (hF : f ≠ 0xF) :
    (ofDigits f x y n).kind = .ofOpcode (0x1000 * f.val + n.val) := by
  have hfamily : (0x1000 * f.val + 0x10 * y.val + n.val) / 4096 = f.val := by omega
  have hdigit : (0x1000 * f.val + 0x10 * y.val + n.val) % 16 = n.val := by omega
  have hfamily' : (0x1000 * f.val + n.val) / 4096 = f.val := by omega
  have hdigit' : (0x1000 * f.val + n.val) % 16 = n.val := by omega
  simp only [kind_ofDigits, Kind.ofOpcode, hfamily, hdigit, hfamily', hdigit']
  split <;> try rfl
  · exact absurd (Fin.ext ‹_›) hE
  · exact absurd (Fin.ext ‹_›) hF

/-- A family that holds one kind only. -/
theorem kind_ofDigits_of_forall {f : Nibble} {kind : Kind} (hE : f ≠ 0xE) (hF : f ≠ 0xF)
    (h : ∀ n : Nibble, Kind.ofOpcode (0x1000 * f.val + n.val) = kind) :
    (ofDigits f x y n).kind = kind :=
  (kind_ofDigits_of_ne f x y n hE hF).trans (h n)

end Instruction
end Chip8
