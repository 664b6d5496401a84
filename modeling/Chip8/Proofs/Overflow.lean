/-
# When floating point overflows

What is said here is about numbers that are not below zero.  Such a number, if it is
finite, has a value (`HasValue`), and a sum or a product of two of them is what their
exact sum or product is rounded to (`Rounds`).  That is finite just if the exact one
is below `ceiling`.  So overflow is a question about exact fractions, and these can be
compared.  That is what a clock needs that moves on: what can be counted later could
have been counted before (`isFinite_of_later`).

Besides, a floating-point number comes out of its bits unchanged if its exponent fits
and its mantissa has the right number of bits (`Canonical.unpack_pack`), and only such
numbers come out of bits (`canonical_of_unpack`).
-/

import Chip8.Proofs.Refusals
import Chip8.Proofs.Rounding

namespace Chip8
namespace Binary64

open Float.Model (UnpackedFloat Format)
open Float.Model.UnpackedFloat (Sign roundWithAccuracy)

/-! ### Packing -/

section Pack

variable {m : Nat} {e : Int}

/-- The bit that the format leaves out. -/
theorem toNat_one_append (fraction : BitVec 52) :
    (1#1 ++ fraction).toNat = 2 ^ 52 + fraction.toNat := by
  rw [BitVec.toNat_append, Nat.shiftLeft_eq, Nat.mul_comm]
  exact (Nat.two_pow_add_eq_or_of_lt fraction.isLt 1).symm

/-- A number with 53 bits comes out of its bits unchanged if its exponent fits. -/
theorem unpack_pack_normal (hm : 0 < m) (hlow : 2 ^ 52 ≤ m) (hhigh : m < 2 ^ 53)
    (hmin : -1074 ≤ e) (hmax : e ≤ 971) (s : Sign) :
    UnpackedFloat.unpack .binary64 (UnpackedFloat.pack .binary64 (.finite s m e hm)) =
      .finite s m e hm := by
  obtain ⟨biased, hbiased⟩ : ∃ biased : Nat, (biased : Int) = e + 1075 :=
    ⟨(e + 1075).toNat, by omega⟩
  have hlog : m.log2 = 52 := (Nat.log2_eq_iff hm.ne').2 ⟨hlow, hhigh⟩
  have hexponent : (e + Format.binary64.exponentBias +
      Format.binary64.mantissaBitsWithoutImplicit).toNat = biased := by
    show (e + 1023 + 52).toNat = biased
    omega
  have hpack : UnpackedFloat.pack .binary64 (.finite s m e hm) =
      UnpackedFloat.packComponents .binary64 s (BitVec.ofNat 11 biased) (BitVec.ofNat 52 m) := by
    have hfits : ¬2 ^ Format.binary64.exponentBits ≤ biased + 1 := by
      show ¬2048 ≤ biased + 1
      omega
    simp only [UnpackedFloat.pack, hexponent, if_neg hfits, hlog]
    rfl
  have hfield : (BitVec.ofNat 11 biased).toNat = biased := by
    rw [BitVec.toNat_ofNat]
    omega
  have hones : BitVec.ofNat 11 biased ≠ -1#11 := by
    intro h
    have : biased = 2047 := hfield.symm.trans (congrArg BitVec.toNat h)
    omega
  have hzero : BitVec.ofNat 11 biased ≠ 0#11 := by
    intro h
    have : biased = 0 := hfield.symm.trans (congrArg BitVec.toNat h)
    omega
  have hmantissa : (1#1 ++ BitVec.ofNat 52 m).toNat = m := by
    rw [toNat_one_append, BitVec.toNat_ofNat]
    omega
  have hvalue : (biased : Int) - (Format.binary64.exponentBias +
      Format.binary64.mantissaBitsWithoutImplicit) = e := by
    show (biased : Int) - (1023 + 52) = e
    omega
  rw [hpack]
  simp only [UnpackedFloat.unpack, UnpackedFloat.unpackMantissa_packComponents,
    UnpackedFloat.unpackExponent_packComponents, UnpackedFloat.unpackSign_packComponents,
    Sign.ofBitVec_toBitVec]
  rw [if_neg hones, if_neg hzero]
  simp only [hmantissa, hfield, hvalue]

/-- A number with fewer bits comes out of its bits unchanged at the least exponent. -/
theorem unpack_pack_subnormal (hm : 0 < m) (hlt : m < 2 ^ 52) (s : Sign) :
    UnpackedFloat.unpack .binary64 (UnpackedFloat.pack .binary64 (.finite s m (-1074) hm)) =
      .finite s m (-1074) hm := by
  have hlog : m.log2 < 52 := (Nat.log2_lt hm.ne').2 hlt
  have hpack : UnpackedFloat.pack .binary64 (.finite s m (-1074) hm) =
      UnpackedFloat.packComponents .binary64 s 0#11 (BitVec.ofNat 52 m) := by
    have hfits : ¬2 ^ Format.binary64.exponentBits ≤ ((-1074 : Int) + Format.binary64.exponentBias +
        Format.binary64.mantissaBitsWithoutImplicit).toNat + 1 := by decide
    have hbits : ¬m.log2 + 1 = Format.binary64.mantissaBits := by
      show ¬m.log2 + 1 = 53
      omega
    simp only [UnpackedFloat.pack, if_neg hfits, if_neg hbits]
  have hfield : (BitVec.ofNat 52 m).toNat = m := by
    rw [BitVec.toNat_ofNat]
    omega
  have hmantissa : ¬BitVec.ofNat 52 m = 0#52 := by
    intro h
    have : m = 0 := hfield.symm.trans (congrArg BitVec.toNat h)
    omega
  rw [hpack]
  simp only [UnpackedFloat.unpack, UnpackedFloat.unpackMantissa_packComponents,
    UnpackedFloat.unpackExponent_packComponents, UnpackedFloat.unpackSign_packComponents,
    Sign.ofBitVec_toBitVec]
  rw [if_neg (by decide), if_pos trivial, dif_neg hmantissa]
  simp only [hfield]
  rfl

/-- A canonical number comes out of its bits unchanged if its exponent fits. -/
theorem Canonical.unpack_pack (h : Canonical m e) (hm : 0 < m) (hmax : e ≤ 971) (s : Sign) :
    UnpackedFloat.unpack .binary64 (UnpackedFloat.pack .binary64 (.finite s m e hm)) =
      .finite s m e hm := by
  rcases Nat.lt_or_ge m (2 ^ 52) with hlt | hfull
  · obtain rfl : e = -1074 := by
      rcases h.full with hfull | hleast
      · omega
      · exact hleast
    exact unpack_pack_subnormal hm hlt s
  · exact unpack_pack_normal hm hfull h.lt h.le hmax s

/-- A number whose exponent does not fit becomes infinite. -/
theorem unpack_pack_of_lt (hm : 0 < m) (he : 971 < e) (s : Sign) :
    UnpackedFloat.unpack .binary64 (UnpackedFloat.pack .binary64 (.finite s m e hm)) =
      .infinity s := by
  have hbias : 2 ^ Format.binary64.exponentBits ≤ (e + Format.binary64.exponentBias +
      Format.binary64.mantissaBitsWithoutImplicit).toNat + 1 := by
    show 2048 ≤ (e + 1023 + 52).toNat + 1
    omega
  simp only [UnpackedFloat.pack, if_pos hbias]
  cases s <;> rfl

/-- **What comes out of bits is canonical,** and its exponent fits. -/
theorem canonical_of_unpack {bits : BitVec 64} {s : Sign} {hm : 0 < m}
    (h : UnpackedFloat.unpack .binary64 bits = .finite s m e hm) : Canonical m e ∧ e ≤ 971 := by
  have hvalue : ∀ n : Nat, (n : Int) - (Format.binary64.exponentBias +
      Format.binary64.mantissaBitsWithoutImplicit) = n - 1075 := by
    intro n
    show (n : Int) - (1023 + 52) = n - 1075
    omega
  have hlt : (@UnpackedFloat.unpackExponent .binary64 bits).toNat < 2048 :=
    BitVec.isLt _
  have hfraction : (@UnpackedFloat.unpackMantissa .binary64 bits).toNat < 2 ^ 52 :=
    BitVec.isLt _
  simp only [UnpackedFloat.unpack, hvalue] at h
  split at h
  · split at h <;> cases h
  · rename_i hones
    have hones' : (@UnpackedFloat.unpackExponent .binary64 bits).toNat ≠ 2047 :=
      fun heq => hones (BitVec.eq_of_toNat_eq heq)
    split at h
    · rename_i hzero
      split at h
      · cases h
      · rw [hzero] at h
        cases h
        exact ⟨⟨by omega, by decide, .inr rfl⟩, by decide⟩
    · rename_i hzero
      have hzero' : (@UnpackedFloat.unpackExponent .binary64 bits).toNat ≠ 0 :=
        fun heq => hzero (BitVec.eq_of_toNat_eq heq)
      cases h
      rw [toNat_one_append]
      exact ⟨⟨by omega, by omega, .inl (by omega)⟩, by omega⟩

/-- The bits that tell the exponent of a number. -/
def exponentField (x : Float) : Nat := x.toBits.toNat / 0x10000000000000 % 0x800

/-- The exponent of a number is read from eleven of its bits. -/
theorem toNat_unpackExponent (x : Float) :
    (@UnpackedFloat.unpackExponent .binary64 x.toModel.toBits.toBitVec).toNat =
      exponentField x := by
  simp only [UnpackedFloat.unpackExponent, BitVec.toNat_cast, BitVec.extractLsb_toNat,
    Nat.shiftRight_eq_div_pow]
  rfl

/-- A number is finite unless all bits of its exponent are set. -/
theorem isFinite_iff (x : Float) : x.isFinite = true ↔ exponentField x ≠ 2047 := by
  have hunpack : x.isFinite =
      (UnpackedFloat.unpack .binary64 x.toModel.toBits.toBitVec).isFinite := rfl
  rw [hunpack, ← toNat_unpackExponent]
  simp only [UnpackedFloat.unpack]
  split
  · rename_i hones
    rw [hones]
    split
    · exact ⟨fun h => absurd h Bool.false_ne_true, fun h => absurd rfl h⟩
    · exact ⟨fun h => absurd h Bool.false_ne_true, fun h => absurd rfl h⟩
  · rename_i hones
    have hfield : (@UnpackedFloat.unpackExponent .binary64
        x.toModel.toBits.toBitVec).toNat ≠ 2047 := fun h => hones (BitVec.eq_of_toNat_eq h)
    refine ⟨fun _ => hfield, fun _ => ?_⟩
    split
    · split <;> rfl
    · rfl

/-- A number has a floor if it is finite. -/
theorem exists_floor_iff (x : Float) :
    (∃ k, (ofFloat x).floor = .ok k) ↔ x.isFinite = true := by
  rw [isFinite_iff, exponentField]
  by_cases hfield : x.toBits.toNat / 0x10000000000000 % 0x800 = 2047
  · have hfloor : ∃ e, (ofFloat x).floor = .error e := by
      rw [ofFloat, ofBits, if_pos hfield]
      split
      · exact ⟨.infinite, rfl⟩
      · exact ⟨.nan, rfl⟩
    obtain ⟨e, he⟩ := hfloor
    refine ⟨fun ⟨k, hk⟩ => ?_, fun h => absurd hfield h⟩
    rw [he] at hk
    cases hk
  · refine ⟨fun _ => hfield, fun _ => ?_⟩
    rw [ofFloat, ofBits, if_neg hfield]
    split <;> exact ⟨_, rfl⟩

end Pack

/-! ### Values -/

/-- A number of the format that is not below zero, and its value. -/
inductive Measures : UnpackedFloat → ℚ → Prop
  | zero (s : Sign) : Measures (.zero s) 0
  | finite {m : Nat} {e : Int} (hm : 0 < m) (h : Canonical m e) (hmax : e ≤ 971) :
    Measures (.finite .positive m e hm) (magnitude m e)

/-- A floating-point number that is finite and not below zero, and its value. -/
def HasValue (x : Float) (v : ℚ) : Prop := Measures x.toModel.unpack v

section Measures

variable {u w : UnpackedFloat} {v z : ℚ} {m : Nat} {e : Int}

/-- What measures a number measures none below zero. -/
theorem Measures.nonneg (h : Measures u v) : 0 ≤ v := by
  cases h with
  | zero s => exact le_rfl
  | finite hm hc hmax => exact magnitude_nonneg _ _

/-- The largest number of the format. -/
theorem Measures.le_largest (h : Measures u v) : v ≤ magnitude (2 ^ 53 - 1) 971 := by
  cases h with
  | zero s => exact magnitude_nonneg _ _
  | finite hm hc hmax =>
    have hlt := hc.lt
    exact magnitude_le (by omega) hmax

/-- What measures a number is finite. -/
theorem Measures.isFinite (h : Measures u v) : u.isFinite = true := by
  cases h <;> rfl

/-- What measures a number is read back from its bits. -/
theorem Measures.unpack_pack (h : Measures u v) :
    UnpackedFloat.unpack .binary64 (UnpackedFloat.pack .binary64 u) = u := by
  cases h with
  | zero s => cases s <;> rfl
  | finite hm hc hmax => exact hc.unpack_pack hm hmax .positive

/-- The floating-point number of what measures a number has it as its value. -/
theorem Measures.hasValue_pack (h : Measures u v) : HasValue (.ofModel (.pack u)) v := by
  have hunpack : (Float.ofModel (.pack u)).toModel.unpack = u := h.unpack_pack
  rw [HasValue, hunpack]
  exact h

/-- A canonical pair that is not out of range measures its magnitude. -/
theorem measures_ofMagnitude (h : Canonical m e) (hmax : e ≤ 971) :
    Measures (ofMagnitude .positive m e) (magnitude m e) := by
  by_cases hm : m = 0
  · subst hm
    have hzero : magnitude 0 e = 0 := by rw [magnitude, Nat.cast_zero, zero_mul]
    rw [hzero]
    exact .zero .positive
  · rw [ofMagnitude, dif_neg hm]
    exact .finite (Nat.pos_of_ne_zero hm) h hmax

/-- There is room below the ceiling for half a unit of the largest numbers. -/
theorem Measures.add_lt_ceiling (h : Measures u v) (hz : z < magnitude 1 970) :
    v + z < ceiling := by
  have hlargest := h.le_largest
  rw [magnitude_succ (show (970 : Int) + 1 = 971 by decide)] at hlargest
  have hceiling : ceiling = magnitude ((2 ^ 53 - 1) * 2) 970 + magnitude 1 970 := by
    rw [← magnitude_add]
    rfl
  linarith

/-- Every number that is measured is below the ceiling. -/
theorem Measures.lt_ceiling (h : Measures u v) : v < ceiling := by
  have hpos : 0 < magnitude 1 970 := by
    unfold magnitude
    positivity
  have hlt := h.add_lt_ceiling hpos
  rwa [add_zero] at hlt

end Measures

/-! ### What exact numbers are rounded to -/

/-- What floating point makes of an exact number that is not below zero.  If that has reached the
ceiling, it is too large.  Else it comes out with a value, which is not below any value that the
exact number is not below. -/
structure Rounds (x : Float) (exact : ℚ) : Prop where
  overflow : ceiling ≤ exact → x.isFinite = false
  exists_value : exact < ceiling →
    ∃ v, HasValue x v ∧ ∀ {y : Float} {z : ℚ}, HasValue y z → z ≤ exact → z ≤ v

section Rounds

variable {u w : UnpackedFloat} {x y : Float} {v z : ℚ} {m : Nat} {e : Int}

/-- What is rounded to a finite number is below the ceiling. -/
theorem Rounds.lt_ceiling (h : Rounds x v) (hx : x.isFinite = true) : v < ceiling := by
  by_contra hge
  rw [h.overflow (not_lt.1 hge)] at hx
  cases hx

/-- Numbers of the format stay as they are. -/
theorem Measures.rounds (h : Measures u v) : Rounds (.ofModel (.pack u)) v where
  overflow hge := absurd h.lt_ceiling (not_lt.2 hge)
  exists_value _ := ⟨v, h.hasValue_pack, fun _ hle => hle⟩

/-- Rounding does not fall below a value that was not above. -/
theorem Measures.le_rounded (h : Measures u z) (hm : m ≠ 0) (he : e ≤ cutExponent m e)
    (hle : z ≤ magnitude m e) : z ≤ magnitude (rounded m e) (cutExponent m e) := by
  cases h with
  | zero s => exact magnitude_nonneg _ _
  | finite hn hc hmax => exact magnitude_le_rounded hm he hc hle

/-- **Rounding, packed into bits.** -/
theorem rounds_roundWithAccuracy (hm : m ≠ 0) (he : e ≤ cutExponent m e) :
    Rounds (.ofModel (.pack (roundWithAccuracy .binary64 .positive m e .exact)))
      (magnitude m e) := by
  obtain ⟨r, q, hc, hmagnitude, heq⟩ := exists_roundWithAccuracy_eq .positive hm he
  have hfits : q ≤ 971 ↔ magnitude m e < ceiling := by
    rw [← hc.lt_limit_iff, hmagnitude, rounded_lt_iff hm he]
  rw [heq]
  constructor
  · intro hge
    have hq : 971 < q := by
      rw [← not_le, hfits]
      exact not_lt.2 hge
    have hpos : 0 < r := (Nat.two_pow_pos 52).trans_le (hc.full_of_lt (by omega))
    have hunpack : (Float.ofModel (.pack (ofMagnitude .positive r q))).toModel.unpack =
        .infinity .positive := by
      rw [ofMagnitude, dif_neg hpos.ne']
      exact unpack_pack_of_lt hpos hq .positive
    exact congrArg UnpackedFloat.isFinite hunpack
  · intro hlt
    refine ⟨_, (measures_ofMagnitude hc (hfits.2 hlt)).hasValue_pack, fun hy hle => ?_⟩
    rw [hmagnitude]
    exact Measures.le_rounded hy hm he hle

/-- **Sums** of numbers with values. -/
theorem Measures.add (hu : Measures u v) (hw : Measures w z) :
    Rounds (.ofModel (.pack (.add .binary64 u w))) (v + z) := by
  -- With a zero the sum is the other number.
  cases hu with
  | zero s =>
    rw [zero_add]
    cases hw with
    | zero s' => cases s <;> cases s' <;> exact (Measures.zero _).rounds
    | finite hm hc hmax => exact (Measures.finite hm hc hmax).rounds
  | @finite m e hm hc hmax =>
    cases hw with
    | zero s' =>
      rw [add_zero]
      exact (Measures.finite hm hc hmax).rounds
    | @finite n f hn hd hmax' =>
      obtain ⟨k, g, hk, hg, hmagnitude, heq⟩ := exists_add_eq (e := e) (f := f) hm hn
      rw [heq, ← hmagnitude]
      exact rounds_roundWithAccuracy hk hg

/-- **Products** of numbers with values. -/
theorem Measures.mul (hu : Measures u v) (hw : Measures w z) :
    Rounds (.ofModel (.pack (.mul .binary64 u w))) (v * z) := by
  -- With a zero the product is zero.
  cases hu with
  | zero s =>
    rw [zero_mul]
    cases hw with
    | zero s' => exact (Measures.zero _).rounds
    | finite hm hc hmax => exact (Measures.zero _).rounds
  | @finite m e hm hc hmax =>
    cases hw with
    | zero s' =>
      rw [mul_zero]
      exact (Measures.zero _).rounds
    | @finite n f hn hd hmax' =>
      rw [magnitude_mul]
      exact rounds_roundWithAccuracy (Nat.mul_pos hm hn).ne' (hc.add_le_cutExponent hd hm hn)

/-- The sum of two values is rounded to the sum of the two numbers. -/
theorem HasValue.add (hx : HasValue x v) (hy : HasValue y z) : Rounds (x + y) (v + z) :=
  Measures.add hx hy

/-- The product of two values is rounded to the product of the two numbers. -/
theorem HasValue.mul (hx : HasValue x v) (hy : HasValue y z) : Rounds (x * y) (v * z) :=
  Measures.mul hx hy

end Rounds

/-! ### Floating-point numbers -/

/-- Neither sums nor products lead back to the finite numbers, whichever way round. -/
theorem isFinite_add_right (u : UnpackedFloat) {w : UnpackedFloat} (h : w.isFinite = false) :
    (UnpackedFloat.add .binary64 u w).isFinite = false := by
  cases w with
  | notANumber => cases u <;> rfl
  | infinity sign =>
    cases u with
    | notANumber => rfl
    | infinity other => cases sign <;> cases other <;> rfl
    | zero other => rfl
    | finite other m e hm => rfl
  | zero sign => cases h
  | finite sign m e hm => cases h

/-- A product with a factor that is not finite is not finite. -/
theorem isFinite_mul_right (u : UnpackedFloat) {w : UnpackedFloat} (h : w.isFinite = false) :
    (UnpackedFloat.mul .binary64 u w).isFinite = false := by
  cases w with
  | notANumber => cases u <;> rfl
  | infinity sign => cases u <;> rfl
  | zero sign => cases h
  | finite sign m e hm => cases h

section Float

variable {x y : Float} {v z : ℚ}

/-- A sum is finite only if what is added up is. -/
theorem isFinite_of_add (h : (x + y).isFinite = true) : x.isFinite = true ∧ y.isFinite = true := by
  constructor
  · by_contra hx
    rw [(isFinite_add_float (Bool.eq_false_of_not_eq_true hx) y).1] at h
    cases h
  · by_contra hy
    have hsum : (x + y).isFinite = false := (pack_of_not_finite
      (isFinite_add_right x.toModel.unpack (Bool.eq_false_of_not_eq_true hy))).1
    rw [hsum] at h
    cases h

/-- A product is finite only if its factors are. -/
theorem isFinite_of_mul (h : (x * y).isFinite = true) : x.isFinite = true ∧ y.isFinite = true := by
  constructor
  · by_contra hx
    rw [isFinite_mul_float (Bool.eq_false_of_not_eq_true hx) y] at h
    cases h
  · by_contra hy
    have hproduct : (x * y).isFinite = false := (pack_of_not_finite
      (isFinite_mul_right x.toModel.unpack (Bool.eq_false_of_not_eq_true hy))).1
    rw [hproduct] at h
    cases h

/-- A number with a value is finite. -/
theorem HasValue.isFinite (h : HasValue x v) : x.isFinite = true := Measures.isFinite h

/-- A floating-point number that has a value if it is finite. -/
def Unsigned (x : Float) : Prop := x.isFinite = true → ∃ v, HasValue x v

/-- A number that is not below zero is unsigned. -/
theorem unsigned_of_not_lt (h : ¬x < 0) : Unsigned x := by
  intro hfinite
  have hmodel : x.toModel.unpack.isFinite = true := hfinite
  have hlt : ¬x.toModel.unpack.lt (.zero .positive) = true := fun hlt => h (decide_eq_true hlt)
  unfold HasValue
  cases hu : x.toModel.unpack with
  | notANumber => rw [hu] at hmodel; cases hmodel
  | infinity sign => rw [hu] at hmodel; cases hmodel
  | zero sign => exact ⟨0, .zero sign⟩
  | finite sign m e hm =>
    obtain ⟨hc, hmax⟩ := canonical_of_unpack hu
    cases sign with
    | positive => exact ⟨_, .finite hm hc hmax⟩
    | negative =>
      rw [hu] at hlt
      exact absurd rfl hlt

/-- A smaller number is at most the other one. -/
theorem le_of_lt (h : x < y) : x ≤ y := by
  have hlt : x.toModel.unpack.lt y.toModel.unpack = true := of_decide_eq_true h
  rw [UnpackedFloat.lt, beq_iff_eq] at hlt
  have hle : x.toModel.unpack.le y.toModel.unpack = true := by
    rw [UnpackedFloat.le, hlt]
    rfl
  exact decide_eq_true hle

/-- What comes of rounding is not below zero. -/
theorem Rounds.unsigned (h : Rounds x v) : Unsigned x := by
  intro hx
  obtain ⟨r, hr, -⟩ := h.exists_value (h.lt_ceiling hx)
  exact ⟨r, hr⟩

/-- Unsigned numbers have an unsigned sum. -/
theorem Unsigned.add (hx : Unsigned x) (hy : Unsigned y) : Unsigned (x + y) := by
  intro h
  obtain ⟨hfx, hfy⟩ := isFinite_of_add h
  obtain ⟨v, hv⟩ := hx hfx
  obtain ⟨z, hz⟩ := hy hfy
  exact (hv.add hz).unsigned h

/-- What is known of the rounding of a number holds of the rounding of what it is rounded to. -/
theorem Rounds.trans (hx : Rounds x v) (hlt : v < ceiling)
    (hy : ∀ {r : ℚ}, HasValue x r → Rounds y r) : Rounds y v where
  overflow hge := absurd hlt (not_lt.2 hge)
  exists_value _ := by
    obtain ⟨r, hr, hmono⟩ := hx.exists_value hlt
    obtain ⟨w, hw, hmono'⟩ := (hy hr).exists_value (Measures.lt_ceiling hr)
    exact ⟨w, hw, fun hz hle => hmono' hz (hmono hz hle)⟩

/-- A word is brought to floating point by rounding its value. -/
theorem rounds_toFloat (n : UInt64) : Rounds n.toFloat (n.toNat : ℚ) := by
  have hfloat : n.toFloat =
      .ofModel (.pack (UnpackedFloat.normalize .binary64 (n.toNat : Int) 0 .positive)) := rfl
  rw [hfloat]
  by_cases hn : n.toNat = 0
  · rw [hn, Nat.cast_zero]
    exact (Measures.zero .positive).rounds
  · obtain ⟨m, e, hm, he, hmagnitude, heq⟩ := exists_round_eq .positive hn 0
    have hvalue : magnitude m e = n.toNat := by
      rw [hmagnitude, magnitude, zpow_zero, mul_one]
    rw [normalize_natCast hn, heq, ← hvalue]
    exact rounds_roundWithAccuracy hm he

/-- **Natural numbers are rounded,** small ones and large ones. -/
theorem rounds_ofNat (n : Nat) : Rounds (Float.ofNat n) (n : ℚ) := by
  by_cases hn : n < 2 ^ 53
  · -- A small one is multiplied with one, the power of ten with exponent zero.
    have hone : (Float.ofBits 4607182418800017408).toModel.unpack =
        .finite .positive (2 ^ 52) (-52) (by decide) := rfl
    have hvalue : HasValue (Float.ofBits 4607182418800017408) (magnitude (2 ^ 52) (-52)) := by
      rw [HasValue, hone]
      exact .finite (by decide) ⟨by decide, by decide, .inl le_rfl⟩ (by decide)
    have hunit : magnitude (2 ^ 52) (-52) = 1 := by norm_num [magnitude]
    have hproduct : Float.ofNat n = n.toUInt64.toFloat * Float.ofBits 4607182418800017408 :=
      dif_pos ⟨hn, by decide⟩
    have hword : Rounds n.toUInt64.toFloat (n : ℚ) := by
      have hnat : n.toUInt64.toNat = n := Nat.mod_eq_of_lt (by omega)
      have hrounds := rounds_toFloat n.toUInt64
      rwa [hnat] at hrounds
    have hlt : (n : ℚ) < ceiling :=
      calc (n : ℚ) = magnitude n 0 := by rw [magnitude, zpow_zero, mul_one]
        _ ≤ magnitude n 970 := magnitude_le le_rfl (by decide)
        _ < ceiling := magnitude_lt_iff.2 (by omega)
    rw [hproduct]
    refine hword.trans hlt fun {r} hr => ?_
    have hrounds := hr.mul hvalue
    rwa [hunit, mul_one] at hrounds
  · -- A large one is rounded once, with 53 more bits.
    have hpos : n ≠ 0 := by omega
    have hne : n * 2 ^ 53 ≠ 0 := Nat.mul_ne_zero hpos (Nat.two_pow_pos 53).ne'
    have he : -53 ≤ cutExponent (n * 2 ^ 53) (-53) := by
      have hcut : cutExponent (n * 2 ^ 53) (-53) =
          max (((n * 2 ^ 53).log2 : Int) + 1 + -53 - 53) (-1074) := rfl
      have hlog : 53 ≤ (n * 2 ^ 53).log2 := (Nat.le_log2 hne).2 (by omega)
      omega
    have hround : Float.ofNat n =
        .ofModel (.pack (roundWithAccuracy .binary64 .positive (n * 2 ^ 53) (-53) .exact)) := by
      have hlarge : Float.ofNat n =
          .ofModel (.pack (UnpackedFloat.ofScientific .binary64 n 0)) :=
        dif_neg fun h => hn h.1
      rw [hlarge, UnpackedFloat.ofScientific, dif_neg hpos, if_neg (by decide), if_neg ?_,
        if_pos le_rfl]
      · have hshift : n <<< Format.binary64.mantissaBits * 10 ^ (0 : Int).toNat = n * 2 ^ 53 := by
          rw [Nat.shiftLeft_eq]
          exact Nat.mul_one _
        simp only [UnpackedFloat.mul, hshift]
        rfl
      · show ¬(0 : Int) < -(2 ^ 11 + (n.log2 : Int))
        omega
    have hvalue : magnitude (n * 2 ^ 53) (-53) = n := by
      rw [magnitude_shift, magnitude]
      norm_num
    rw [hround, ← hvalue]
    exact rounds_roundWithAccuracy hne he

/-- Natural numbers do not come out below zero. -/
theorem unsigned_ofNat (n : Nat) : Unsigned (Float.ofNat n) := (rounds_ofNat n).unsigned

/-- **What can be counted later could have been counted before.**  If at a time that has moved on
the events of a frequency do not overflow, then they did not before. -/
theorem isFinite_of_later {hz slack : Float} {s : ℚ} (hx : Unsigned x) (hy : Unsigned y)
    (hhz : Unsigned hz) (hslack : HasValue slack s) (hs : s < magnitude 1 970)
    (h : ((x + y) * hz + slack).isFinite = true) : (x * hz + slack).isFinite = true := by
  obtain ⟨hlater, -⟩ := isFinite_of_add h
  obtain ⟨hsum, hfz⟩ := isFinite_of_mul hlater
  obtain ⟨hfx, hfy⟩ := isFinite_of_add hsum
  obtain ⟨v, hv⟩ := hx hfx
  obtain ⟨z, hz'⟩ := hy hfy
  obtain ⟨w, hw⟩ := hhz hfz
  obtain ⟨r, hr, hmono⟩ := (hv.add hz').exists_value ((hv.add hz').lt_ceiling hsum)
  have hle : v ≤ r := hmono hv (le_add_of_nonneg_right (Measures.nonneg hz'))
  have hproduct : v * w < ceiling :=
    calc v * w ≤ r * w := mul_le_mul_of_nonneg_right hle (Measures.nonneg hw)
      _ < ceiling := (hr.mul hw).lt_ceiling hlater
  obtain ⟨p, hp, -⟩ := (hv.mul hw).exists_value hproduct
  obtain ⟨q, hq, -⟩ := (hp.add hslack).exists_value (Measures.add_lt_ceiling hp hs)
  exact hq.isFinite

end Float

end Binary64
end Chip8
