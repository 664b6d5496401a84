/-
# What the arithmetic instructions compute

The arithmetic of the machine is on bytes, and here it is said in whole numbers:
`a` and `b` are what `Vx` and `Vy` hold before an instruction, and sums, differences
and doubles are taken modulo 256.  Five of the ten instructions leave a flag beside
the result.

Whether two of the registers are the same makes no difference to what is said
(`execute_arithmetic`).  Both operands are read before anything is written
(`execute_ofDigits_flagged`), and the flag is written last, so it is the flag that
remains when the result would go to the same place.  A flag and its result together
lose nothing of a sum, a half or a double.
-/

import Chip8.Machine.Execute
import Chip8.Proofs.Opcodes

namespace Chip8

namespace Alu

/-- The flag of a condition as a number. -/
theorem toNat_bit (p : Prop) [Decidable p] : ((bit p).toNat : Int) = if p then 1 else 0 := by
  by_cases hp : p <;> simp [bit, hp]

/-- The sum goes round at 256, and the flag tells that it did. -/
theorem toNat_add (a b : UInt8) :
    ((add a b).1.toNat : Int) = (a.toNat + b.toNat) % 256 ∧
      ((add a b).2.toNat : Int) = if 255 < (a.toNat : Int) + b.toNat then 1 else 0 := by
  constructor
  · simp only [add, UInt8.toNat_add]
    omega
  · rw [add, toNat_bit]
    split <;> split <;> omega

/-- The difference goes round below zero, and the flag tells whether the first operand is the larger
one; of equal operands neither is. -/
theorem toNat_subtract (a b : UInt8) :
    ((subtract a b).1.toNat : Int) = ((a.toNat : Int) - b.toNat) % 256 ∧
      ((subtract a b).2.toNat : Int) = if (b.toNat : Int) < a.toNat then 1 else 0 := by
  have ha := a.toNat_lt
  have hb := b.toNat_lt
  constructor
  · simp only [subtract, UInt8.toNat_sub]
    omega
  · rw [subtract, toNat_bit]
    simp only [UInt8.lt_iff_toNat_lt]
    split <;> split <;> omega

/-- A shift to the right halves, and the flag is the remainder. -/
theorem toNat_shiftRight (a : UInt8) :
    ((shiftRight a).1.toNat : Int) = a.toNat / 2 ∧
      ((shiftRight a).2.toNat : Int) = a.toNat % 2 := by
  constructor
  · simp [shiftRight, Nat.shiftRight_eq_div_pow]
  · simp [shiftRight, Nat.and_one_is_mod]

/-- A shift to the left doubles modulo 256, and the flag is the bit that is lost. -/
theorem toNat_shiftLeft (a : UInt8) :
    ((shiftLeft a).1.toNat : Int) = 2 * a.toNat % 256 ∧
      ((shiftLeft a).2.toNat : Int) = a.toNat / 128 := by
  constructor
  · simp [shiftLeft, Nat.shiftLeft_eq]
    omega
  · simp [shiftLeft, Nat.shiftRight_eq_div_pow]

end Alu

namespace Machine

variable {m : Machine} {ins : Instruction} {x : Register}

/-- An instruction that puts a number in a register and changes nothing else. -/
structure Puts (m : Machine) (ins : Instruction) (x : Register) (result : Int) : Prop where
  carriedOut : (m.execute ins).2 = none
  result : (((m.execute ins).1.regs.get x).toNat : Int) = result
  others : ∀ z, z ≠ x → (m.execute ins).1.regs.get z = m.regs.get z
  rest : ∃ v, (m.execute ins).1 = { m with regs := { m.regs with v } }

/-- An instruction that puts a number in a register and a flag in the flag register, and changes
nothing else.  If these are one register, it holds the flag. -/
structure PutsWithFlag (m : Machine) (ins : Instruction) (x : Register) (result flag : Int) :
    Prop where
  carriedOut : (m.execute ins).2 = none
  flag : (((m.execute ins).1.regs.get Registers.flag).toNat : Int) = flag
  result : x ≠ Registers.flag → (((m.execute ins).1.regs.get x).toNat : Int) = result
  others : ∀ z, z ≠ x → z ≠ Registers.flag → (m.execute ins).1.regs.get z = m.regs.get z
  rest : ∃ v, (m.execute ins).1 = { m with regs := { m.regs with v } }

/-- To replace one register is to put a result there and to leave all else. -/
theorem puts_of_eq {b : UInt8} (h : m.execute ins = (m.setV x b, none)) :
    m.Puts ins x b.toNat where
  carriedOut := by rw [h]
  result := by rw [h, setV, Registers.get_set_self]
  others z hz := by rw [h, setV, Registers.get_set, if_neg (Ne.symm hz)]
  rest := ⟨_, by rw [h]; rfl⟩

/-- A result and then a flag: where both go to the flag register, the flag is what remains. -/
theorem putsWithFlag_of_eq {r : UInt8 × UInt8} {result flag : Int}
    (h : m.execute ins = (m.setWithFlag x r, none))
    (hr : (r.1.toNat : Int) = result ∧ (r.2.toNat : Int) = flag) :
    m.PutsWithFlag ins x result flag where
  carriedOut := by rw [h]
  flag := by rw [h, setWithFlag, setV, Registers.get_set_self, hr.2]
  result hx := by
    rw [h, setWithFlag, setV, Registers.get_set, if_neg (Ne.symm hx), setV, Registers.get_set_self,
      hr.1]
  others z hz hflag := by
    rw [h, setWithFlag, setV, Registers.get_set, if_neg (Ne.symm hflag), setV, Registers.get_set,
      if_neg (Ne.symm hz)]
  rest := ⟨_, by rw [h]; rfl⟩

/-! ### The instructions -/

section Operations

variable (m : Machine) (x y n : Nibble)

/-- Of the opcodes `8xyn` the last digit tells the kind. -/
theorem kind_ofDigits_eight (kind : Kind) (h : Kind.ofOpcode (0x8000 + n.val) = kind) :
    (Instruction.ofDigits 8 x y n).kind = kind :=
  (Instruction.kind_ofDigits_of_ne 8 x y n (by decide) (by decide)).trans h

/-- Both operands are those before the instruction, and the flag is put last. -/
theorem execute_ofDigits_flagged :
    m.execute (.ofDigits 8 x y 4) =
        (m.setWithFlag x (Alu.add (m.regs.get x) (m.regs.get y)), none) ∧
      m.execute (.ofDigits 8 x y 5) =
        (m.setWithFlag x (Alu.subtract (m.regs.get x) (m.regs.get y)), none) ∧
      m.execute (.ofDigits 8 x y 6) = (m.setWithFlag x (Alu.shiftRight (m.regs.get x)), none) ∧
      m.execute (.ofDigits 8 x y 7) =
        (m.setWithFlag x (Alu.subtract (m.regs.get y) (m.regs.get x)), none) ∧
      m.execute (.ofDigits 8 x y 0xE) = (m.setWithFlag x (Alu.shiftLeft (m.regs.get x)), none) := by
  refine ⟨?_, ?_, ?_, ?_, ?_⟩
  · simp only [execute, kind_ofDigits_eight x y 4 .add rfl, Instruction.x_ofDigits,
      Instruction.y_ofDigits]
  · simp only [execute, kind_ofDigits_eight x y 5 .subtract rfl, Instruction.x_ofDigits,
      Instruction.y_ofDigits]
  · simp only [execute, kind_ofDigits_eight x y 6 .shiftRight rfl, Instruction.x_ofDigits]
  · simp only [execute, kind_ofDigits_eight x y 7 .subtractFrom rfl, Instruction.x_ofDigits,
      Instruction.y_ofDigits]
  · simp only [execute, kind_ofDigits_eight x y 0xE .shiftLeft rfl, Instruction.x_ofDigits]

/-- The copy and the three operations bit by bit put their result and leave the flag alone. -/
theorem puts_logic :
    m.Puts (.ofDigits 8 x y 0) x (m.regs.get y).toNat ∧
      m.Puts (.ofDigits 8 x y 1) x ((m.regs.get x).toNat ||| (m.regs.get y).toNat : Nat) ∧
      m.Puts (.ofDigits 8 x y 2) x ((m.regs.get x).toNat &&& (m.regs.get y).toNat : Nat) ∧
      m.Puts (.ofDigits 8 x y 3) x ((m.regs.get x).toNat ^^^ (m.regs.get y).toNat : Nat) := by
  rw [← UInt8.toNat_or, ← UInt8.toNat_and, ← UInt8.toNat_xor]
  refine ⟨puts_of_eq ?_, puts_of_eq ?_, puts_of_eq ?_, puts_of_eq ?_⟩
  · simp only [execute, kind_ofDigits_eight x y 0 .copy rfl, Instruction.x_ofDigits,
      Instruction.y_ofDigits]
  · simp only [execute, kind_ofDigits_eight x y 1 .or rfl, Instruction.x_ofDigits,
      Instruction.y_ofDigits]
  · simp only [execute, kind_ofDigits_eight x y 2 .and rfl, Instruction.x_ofDigits,
      Instruction.y_ofDigits]
  · simp only [execute, kind_ofDigits_eight x y 3 .xor rfl, Instruction.x_ofDigits,
      Instruction.y_ofDigits]

/-- The addition of a byte goes round at 256 and leaves the flag alone. -/
theorem puts_addByte : m.Puts (.ofDigits 7 x y n) x
    (((m.regs.get x).toNat + (0x10 * y.val + n.val)) % 256) := by
  have hk : (Instruction.ofDigits 7 x y n).kind = .addByte :=
    Instruction.kind_ofDigits_of_forall x y n (by decide) (by decide) (by decide)
  have hsum : (((m.regs.get x + (Instruction.ofDigits 7 x y n).kk).toNat : Nat) : Int) =
      ((m.regs.get x).toNat + (0x10 * y.val + n.val)) % 256 := by
    rw [UInt8.toNat_add, Instruction.toNat_kk_ofDigits]
    omega
  rw [← hsum]
  exact puts_of_eq (by simp only [execute, hk, Instruction.x_ofDigits])

end Operations

/-- **What the arithmetic instructions compute,** in every state and whichever registers they name.
The five with a flag leave carry, "no borrow" or the bit shifted out in the flag register, and the
result in `Vx` unless that is the flag register.  With their flags a sum, a half and a double can be
undone.  The others leave their result in `Vx` and every other register alone. -/
theorem execute_arithmetic (m : Machine) (x y n : Nibble) :
    let a := (m.regs.get x).toNat
    let b := (m.regs.get y).toNat
    let op (last : Nibble) := Instruction.ofDigits 8 x y last
    let vx (last : Nibble) := ((m.execute (op last)).1.regs.get x).toNat
    let vf (last : Nibble) := ((m.execute (op last)).1.regs.get Registers.flag).toNat
    (m.PutsWithFlag (op 4) x ((a + b) % 256) (if (a : Int) + b > 255 then 1 else 0) ∧
        m.PutsWithFlag (op 5) x ((a - b) % 256) (if (a : Int) > b then 1 else 0) ∧
        m.PutsWithFlag (op 6) x (a / 2) (a % 2) ∧
        m.PutsWithFlag (op 7) x ((b - a) % 256) (if (b : Int) > a then 1 else 0) ∧
        m.PutsWithFlag (op 0xE) x (2 * a % 256) (a / 128)) ∧
      (x ≠ Registers.flag →
        a + b = 256 * vf 4 + vx 4 ∧ a = 2 * vx 6 + vf 6 ∧ 2 * a = 256 * vf 0xE + vx 0xE) ∧
      (m.Puts (op 0) x b ∧ m.Puts (op 1) x (a ||| b : Nat) ∧ m.Puts (op 2) x (a &&& b : Nat) ∧
        m.Puts (op 3) x (a ^^^ b : Nat)) ∧
      m.Puts (.ofDigits 7 x y n) x ((a + (0x10 * y.val + n.val)) % 256) := by
  intro a b op vx vf
  have ha : a < 256 := (m.regs.get x).toNat_lt
  have hb : b < 256 := (m.regs.get y).toNat_lt
  obtain ⟨hadd, hsubtract, hright, hfrom, hleft⟩ := execute_ofDigits_flagged m x y
  have hcarry := putsWithFlag_of_eq hadd (Alu.toNat_add _ _)
  have hhalf := putsWithFlag_of_eq hright (Alu.toNat_shiftRight _)
  have hdouble := putsWithFlag_of_eq hleft (Alu.toNat_shiftLeft _)
  refine ⟨⟨hcarry, putsWithFlag_of_eq hsubtract (Alu.toNat_subtract _ _), hhalf,
    putsWithFlag_of_eq hfrom (Alu.toNat_subtract _ _), hdouble⟩, fun hx => ⟨?_, ?_, ?_⟩,
    puts_logic m x y, puts_addByte m x y n⟩
  · have hvx : (vx 4 : Int) = (a + b) % 256 := hcarry.result hx
    have hvf : (vf 4 : Int) = if 255 < (a : Int) + b then 1 else 0 := hcarry.flag
    split at hvf <;> omega
  · have hvx : (vx 6 : Int) = a / 2 := hhalf.result hx
    have hvf : (vf 6 : Int) = a % 2 := hhalf.flag
    omega
  · have hvx : (vx 0xE : Int) = 2 * a % 256 := hdouble.result hx
    have hvf : (vf 0xE : Int) = a / 128 := hdouble.flag
    omega

end Machine
end Chip8
