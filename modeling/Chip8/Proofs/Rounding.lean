/-
# Rounding to 53 bits

A sum or a product in floating point is the exact one, rounded to 53 bits, or to as
many as there are above the least exponent.  The bits of `m · 2^e` that are too many
are cut off (`cut`), and the mantissa that is left is rounded up or not (`rounded`).
If it then has 54 bits, one more is cut off, and that is exact.

Two facts about this tell when floating point overflows.  What comes of rounding is
not below any number of the format that `m · 2^e` is not below
(`magnitude_le_rounded`).  And it is too large for the format just if `m · 2^e` has
reached `ceiling`, halfway between the largest number of the format and the next
power of two (`rounded_lt_iff`).
-/

import Mathlib

namespace Chip8
namespace Binary64

open Float.Model (UnpackedFloat Format totalExponent)
open Float.Model.UnpackedFloat (Sign ExtendedMantissa roundWithAccuracy)

/-! ### Magnitudes -/

/-- The number `m · 2^e`. -/
def magnitude (m : Nat) (e : Int) : ℚ := m * 2 ^ e

/-- The form in which the format has `m · 2^e`: with 53 bits, or as many as fit above its least
exponent. -/
structure Canonical (m : Nat) (e : Int) : Prop where
  lt : m < 2 ^ 53
  le : -1074 ≤ e
  full : 2 ^ 52 ≤ m ∨ e = -1074

/-- Halfway between the largest number of the format and the power of two above it. -/
def ceiling : ℚ := magnitude (2 ^ 54 - 1) 970

/-- The power of two above all numbers of the format. -/
def limit : ℚ := magnitude (2 ^ 53) 971

/-- Above the least exponent a number has all its bits. -/
theorem Canonical.full_of_lt {m : Nat} {e : Int} (h : Canonical m e) (he : -1074 < e) :
    2 ^ 52 ≤ m := by
  rcases h.full with hfull | hleast
  · exact hfull
  · omega

section Magnitude

variable {a b : Nat} {e f : Int}

/-- No magnitude is below zero. -/
theorem magnitude_nonneg (a : Nat) (e : Int) : 0 ≤ magnitude a e := by
  unfold magnitude
  positivity

/-- With one exponent magnitudes compare as their mantissas do. -/
theorem magnitude_le_iff : magnitude a e ≤ magnitude b e ↔ a ≤ b := by
  have hpos : (0 : ℚ) < 2 ^ e := by positivity
  rw [magnitude, magnitude, mul_le_mul_iff_left₀ hpos, Nat.cast_le]

/-- With one exponent magnitudes are told apart as their mantissas are. -/
theorem magnitude_lt_iff : magnitude a e < magnitude b e ↔ a < b := by
  rw [← not_le, magnitude_le_iff, not_le]

/-- Bits can be moved from the exponent into the mantissa. -/
theorem magnitude_shift (a : Nat) (e : Int) (k : Nat) :
    magnitude (a * 2 ^ k) e = magnitude a (e + k) := by
  unfold magnitude
  rw [zpow_add₀ two_ne_zero, zpow_natCast]
  push_cast
  ring

/-- An exponent that is larger by one doubles the mantissa. -/
theorem magnitude_succ (h : e + 1 = f) (a : Nat) : magnitude a f = magnitude (a * 2) e := by
  rw [← h]
  exact (magnitude_shift a e 1).symm

/-- A magnitude grows with the mantissa and with the exponent. -/
theorem magnitude_le (hab : a ≤ b) (hef : e ≤ f) : magnitude a e ≤ magnitude b f := by
  have hpow : (2 : ℚ) ^ e ≤ 2 ^ f := zpow_le_zpow_right₀ one_le_two hef
  calc magnitude a e ≤ magnitude b e := magnitude_le_iff.2 hab
    _ ≤ magnitude b f := mul_le_mul_of_nonneg_left hpow (Nat.cast_nonneg b)

/-- With one exponent magnitudes are added as their mantissas are. -/
theorem magnitude_add (a b : Nat) (e : Int) :
    magnitude (a + b) e = magnitude a e + magnitude b e := by
  unfold magnitude
  push_cast
  ring

/-- In a product the mantissas are multiplied and the exponents added. -/
theorem magnitude_mul (a b : Nat) (e f : Int) :
    magnitude a e * magnitude b f = magnitude (a * b) (e + f) := by
  unfold magnitude
  rw [zpow_add₀ two_ne_zero]
  push_cast
  ring

/-- With 53 bits at too large an exponent a number is beyond the format. -/
theorem limit_le (ha : 2 ^ 52 ≤ a) (he : 971 < e) : limit ≤ magnitude a e := by
  have hshift : magnitude (2 ^ 52) 972 = limit := magnitude_succ (by decide) (2 ^ 52)
  rw [← hshift]
  exact magnitude_le ha he

/-- A canonical number fits into the format if its exponent does. -/
theorem Canonical.lt_limit_iff (h : Canonical a e) : magnitude a e < limit ↔ e ≤ 971 := by
  constructor
  · intro hlt
    by_contra hgt
    exact absurd hlt (not_lt.2 (limit_le (h.full_of_lt (by omega)) (by omega)))
  · intro hle
    calc magnitude a e ≤ magnitude a 971 := magnitude_le le_rfl hle
      _ < limit := magnitude_lt_iff.2 h.lt

end Magnitude

/-! ### Rounding -/

/-- The exponent at which `m · 2^e` is cut off. -/
def cutExponent (m : Nat) (e : Int) : Int := max (m.log2 + 1 + e - 53) (-1074)

/-- The exponent that the format asks for is the one at which a mantissa is cut. -/
theorem targetExponent_eq (m : Nat) (e : Int) :
    Format.binary64.targetExponent (totalExponent m e) = cutExponent m e := by
  simp only [Format.targetExponent, totalExponent, cutExponent, Format.mantissaBits,
    Format.minExponent]
  rfl

/-- The bits that are left of `m · 2^e`, and of those that are cut off what is needed to round. -/
def cut (m : Nat) (e : Int) : ExtendedMantissa :=
  (⟨m, false, false⟩ : ExtendedMantissa) >>> (cutExponent m e - e).toNat

theorem shiftRight_succ (b : ExtendedMantissa) (k : Nat) :
    b >>> (k + 1) = (b >>> k).shiftRightOne := rfl

/-- A shift to the right divides by a power of two. -/
theorem mantissa_shiftRight (b : ExtendedMantissa) (k : Nat) :
    (b >>> k).mantissa = b.mantissa / 2 ^ k := by
  induction k with
  | zero => exact (Nat.div_one _).symm
  | succ k ih =>
    rw [shiftRight_succ, ExtendedMantissa.shiftRightOne, ih, Nat.div_div_eq_div_mul, Nat.pow_succ]

/-- Rounding leaves the mantissa or adds one to it. -/
theorem roundedMantissa_cases (b : ExtendedMantissa) :
    b.mantissa ≤ b.roundedMantissa ∧ b.roundedMantissa ≤ b.mantissa + 1 := by
  obtain ⟨m, round, sticky⟩ := b
  cases round <;> cases sticky
  · exact ⟨Nat.le_refl m, Nat.le_succ m⟩
  · exact ⟨Nat.le_refl m, Nat.le_succ m⟩
  · show m ≤ m + m % 2 ∧ m + m % 2 ≤ m + 1
    omega
  · exact ⟨Nat.le_succ m, Nat.le_refl _⟩

/-- An odd mantissa is rounded up by a half. -/
theorem roundedMantissa_of_odd {b : ExtendedMantissa} (hodd : b.mantissa % 2 = 1) :
    b.roundedMantissa = b.mantissa + b.roundBit.toNat := by
  obtain ⟨m, round, sticky⟩ := b
  cases round <;> cases sticky
  · rfl
  · rfl
  · show m + m % 2 = m + 1
    rw [show m % 2 = 1 from hodd]
  · rfl

section Cut

variable {m k : Nat} {e : Int}

/-- A mantissa is cut by as many bits as its exponent is too small. -/
theorem cut_eq (hk : e + k = cutExponent m e) :
    cut m e = (⟨m, false, false⟩ : ExtendedMantissa) >>> k := by
  have hcount : (cutExponent m e - e).toNat = k := by omega
  rw [cut, hcount]

/-- What is left of a mantissa that was cut is its quotient by a power of two. -/
theorem mantissa_cut (hk : e + k = cutExponent m e) : (cut m e).mantissa = m / 2 ^ k := by
  rw [cut_eq hk, mantissa_shiftRight]

/-- What is left of a number has 53 bits, or as many as fit above the least exponent. -/
theorem canonical_cut (hm : m ≠ 0) (he : e ≤ cutExponent m e) :
    Canonical (cut m e).mantissa (cutExponent m e) := by
  obtain ⟨k, hk⟩ := Int.le.dest he
  have hcut : cutExponent m e = max ((m.log2 : Int) + 1 + e - 53) (-1074) := rfl
  have hlow : 2 ^ m.log2 ≤ m := Nat.log2_self_le hm
  have hhigh : m < 2 ^ (m.log2 + 1) := Nat.lt_log2_self
  rw [mantissa_cut hk]
  refine ⟨?_, by omega, ?_⟩
  · have hle : 2 ^ (m.log2 + 1) ≤ 2 ^ (53 + k) := Nat.pow_le_pow_right (by decide) (by omega)
    rw [Nat.div_lt_iff_lt_mul (Nat.two_pow_pos k), ← Nat.pow_add]
    omega
  · by_cases hleast : cutExponent m e = -1074
    · exact .inr hleast
    · left
      have hle : 2 ^ (52 + k) ≤ 2 ^ m.log2 := Nat.pow_le_pow_right (by decide) (by omega)
      rw [Nat.le_div_iff_mul_le (Nat.two_pow_pos k), ← Nat.pow_add]
      omega

/-- What is left of a number is not above it, and less than a unit below. -/
theorem magnitude_cut (he : e ≤ cutExponent m e) :
    magnitude (cut m e).mantissa (cutExponent m e) ≤ magnitude m e ∧
      magnitude m e < magnitude ((cut m e).mantissa + 1) (cutExponent m e) := by
  obtain ⟨k, hk⟩ := Int.le.dest he
  rw [mantissa_cut hk, ← hk, ← magnitude_shift, ← magnitude_shift, magnitude_le_iff,
    magnitude_lt_iff]
  exact ⟨Nat.div_mul_le_self m (2 ^ k),
    Nat.lt_mul_of_div_lt (Nat.lt_succ_self _) (Nat.two_pow_pos k)⟩

/-- The mantissa of `m · 2^e` after rounding. -/
def rounded (m : Nat) (e : Int) : Nat := (cut m e).roundedMantissa

/-- To round is to cut, or to cut and add one. -/
theorem rounded_cases (m : Nat) (e : Int) :
    (cut m e).mantissa ≤ rounded m e ∧ rounded m e ≤ (cut m e).mantissa + 1 :=
  roundedMantissa_cases _

/-- **Rounding does not fall below a canonical number** that was not above. -/
theorem magnitude_le_rounded (hm : m ≠ 0) (he : e ≤ cutExponent m e) {a : Nat} {f : Int}
    (ha : Canonical a f) (hle : magnitude a f ≤ magnitude m e) :
    magnitude a f ≤ magnitude (rounded m e) (cutExponent m e) := by
  have hc := canonical_cut hm he
  obtain ⟨-, hlt⟩ := magnitude_cut he
  obtain ⟨hround, -⟩ := rounded_cases m e
  rcases le_or_gt (cutExponent m e) f with hf | hf
  · -- The other number is a whole number of units.
    obtain ⟨k, rfl⟩ := Int.le.dest hf
    rw [← magnitude_shift] at hle ⊢
    have hunit := magnitude_lt_iff.1 (hle.trans_lt hlt)
    exact magnitude_le_iff.2 (by omega)
  · -- The other number has a smaller exponent, so it is below all with 53 bits.
    have hfull : 2 ^ 52 ≤ (cut m e).mantissa := hc.full_of_lt (ha.le.trans_lt hf)
    have htop : magnitude (2 ^ 52) (cutExponent m e) = magnitude (2 ^ 53) (cutExponent m e - 1) :=
      magnitude_succ (Int.sub_add_cancel _ 1) (2 ^ 52)
    calc magnitude a f ≤ magnitude (2 ^ 53) (cutExponent m e - 1) :=
          magnitude_le ha.lt.le (by omega)
      _ = magnitude (2 ^ 52) (cutExponent m e) := htop.symm
      _ ≤ magnitude (rounded m e) (cutExponent m e) := magnitude_le_iff.2 (hfull.trans hround)

/-- A mantissa of ones is rounded up from a half on. -/
theorem rounded_eq_iff (he : e ≤ cutExponent m e) (hones : (cut m e).mantissa = 2 ^ 53 - 1) :
    rounded m e = 2 ^ 53 ↔ magnitude (2 ^ 54 - 1) (cutExponent m e - 1) ≤ magnitude m e := by
  obtain ⟨k, hk⟩ := Int.le.dest he
  have hround : rounded m e = 2 ^ 53 - 1 + (cut m e).roundBit.toNat := by
    rw [rounded, roundedMantissa_of_odd (by rw [hones]; rfl), hones]
  have hmantissa : m / 2 ^ k = 2 ^ 53 - 1 := by rw [← mantissa_cut hk, hones]
  cases k with
  | zero =>
    -- Nothing is cut off.
    have hbit : (cut m e).roundBit = false := by rw [cut_eq hk]; rfl
    rw [hround, hbit, ← hk, Nat.cast_zero, Int.add_zero,
      magnitude_succ (Int.sub_add_cancel e 1) m, magnitude_le_iff]
    rw [Nat.pow_zero, Nat.div_one] at hmantissa
    constructor
    · intro habsurd
      cases habsurd
    · intro habsurd
      omega
  | succ k =>
    have hbit : (cut m e).roundBit = (m / 2 ^ k % 2 != 0) := by
      rw [cut_eq hk, shiftRight_succ, ExtendedMantissa.shiftRightOne, mantissa_shiftRight]
    have hunit : cutExponent m e - 1 = e + k := by omega
    rw [Nat.pow_succ, ← Nat.div_div_eq_div_mul] at hmantissa
    rw [hround, hbit, hunit, ← magnitude_shift, magnitude_le_iff,
      ← Nat.le_div_iff_mul_le (Nat.two_pow_pos k)]
    rcases Nat.mod_two_eq_zero_or_one (m / 2 ^ k) with heven | hodd
    · rw [heven]
      constructor
      · intro habsurd
        cases habsurd
      · intro habsurd
        omega
    · rw [hodd]
      exact ⟨fun _ => by omega, fun _ => rfl⟩

/-- **When rounding overflows.**  What `m · 2^e` is rounded to fits into the format just if
`m · 2^e` is below the ceiling. -/
theorem rounded_lt_iff (hm : m ≠ 0) (he : e ≤ cutExponent m e) :
    magnitude (rounded m e) (cutExponent m e) < limit ↔ magnitude m e < ceiling := by
  have hc := canonical_cut hm he
  obtain ⟨hle, hlt⟩ := magnitude_cut he
  obtain ⟨hlow, hhigh⟩ := rounded_cases m e
  have hcut := hc.lt
  have hlast : (970 : Int) + 1 = 971 := rfl
  rcases lt_trichotomy (cutExponent m e) 971 with hq | hq | hq
  · -- Far enough below.
    have hround : magnitude (rounded m e) (cutExponent m e) ≤ magnitude (2 ^ 53) 970 :=
      magnitude_le (by omega) (by omega)
    have hexact : magnitude m e < ceiling :=
      hlt.trans_le (magnitude_le (by omega) (by omega))
    have htop : magnitude (2 ^ 53) 970 < limit := by
      rw [limit, magnitude_succ hlast (2 ^ 53), magnitude_lt_iff]
      decide
    exact ⟨fun _ => hexact, fun _ => hround.trans_lt htop⟩
  · -- At the last exponent it comes down to a mantissa of ones.
    have hceiling : ceiling = magnitude (2 ^ 54 - 1) (cutExponent m e - 1) := by rw [hq]; rfl
    rcases Nat.lt_or_ge (cut m e).mantissa (2 ^ 53 - 1) with hless | hones
    · have hexact : magnitude m e < ceiling := by
        refine hlt.trans_le ?_
        rw [hq, ceiling, magnitude_succ hlast]
        exact magnitude_le_iff.2 (by omega)
      rw [hq, limit, magnitude_lt_iff]
      exact ⟨fun _ => hexact, fun _ => by omega⟩
    · have heq := rounded_eq_iff he (by omega)
      rw [← hceiling] at heq
      rw [hq, limit, magnitude_lt_iff, ← not_le (a := ceiling), ← heq]
      omega
  · -- Far enough above.
    have hfull : 2 ^ 52 ≤ (cut m e).mantissa := hc.full_of_lt (by omega)
    have htop : limit ≤ magnitude (cut m e).mantissa (cutExponent m e) := limit_le hfull hq
    have hceiling : ceiling ≤ limit := by
      rw [ceiling, limit, magnitude_succ hlast (2 ^ 53)]
      exact magnitude_le_iff.2 (by decide)
    constructor
    · intro habsurd
      exact absurd habsurd (not_lt.2 (htop.trans (magnitude_le_iff.2 hlow)))
    · intro habsurd
      exact absurd habsurd (not_lt.2 (hceiling.trans (htop.trans hle)))

/-! ### The operations of the format -/

/-- The number of a sign and a magnitude. -/
def ofMagnitude (s : Sign) (m : Nat) (e : Int) : UnpackedFloat :=
  if h : m = 0 then .zero s else .finite s m e (Nat.pos_of_ne_zero h)

/-- Canonical numbers are not cut off. -/
theorem Canonical.cutExponent_eq (h : Canonical m e) : cutExponent m e = e := by
  have hcut : cutExponent m e = max ((m.log2 : Int) + 1 + e - 53) (-1074) := rfl
  have hle := h.le
  by_cases hm : m = 0
  · subst hm
    have hzero : Nat.log2 0 = 0 := rfl
    rcases h.full with hfull | hleast
    · omega
    · omega
  · have hlog : m.log2 < 53 := (Nat.log2_lt hm).2 h.lt
    rcases h.full with hfull | hleast
    · have hlow : 52 ≤ m.log2 := (Nat.le_log2 hm).2 hfull
      omega
    · omega

/-- The library's way to the exponent of the format is the cut. -/
theorem shiftToTargetExponent_eq (he : e ≤ cutExponent m e) :
    UnpackedFloat.shiftToTargetExponent .binary64 m e .exact = (cut m e, cutExponent m e) := by
  have hexponent : e + ((cutExponent m e - e).toNat : Int) = cutExponent m e := by omega
  simp only [UnpackedFloat.shiftToTargetExponent, UnpackedFloat.shiftToExponent, targetExponent_eq,
    hexponent]
  rfl

/-- Rounding cuts off twice: once at the start, and once more if it has come to 54 bits. -/
theorem roundWithAccuracy_eq (s : Sign) (he : e ≤ cutExponent m e)
    (hagain : cutExponent m e ≤ cutExponent (rounded m e) (cutExponent m e)) :
    roundWithAccuracy .binary64 s m e .exact =
      ofMagnitude s (cut (rounded m e) (cutExponent m e)).mantissa
        (cutExponent (rounded m e) (cutExponent m e)) := by
  unfold roundWithAccuracy
  rw [shiftToTargetExponent_eq he]
  simp only
  rw [← rounded, shiftToTargetExponent_eq hagain]
  rfl

/-- **What a number is rounded to** is canonical, and has the magnitude of the rounded mantissa. -/
theorem exists_roundWithAccuracy_eq (s : Sign) (hm : m ≠ 0) (he : e ≤ cutExponent m e) :
    ∃ r q, Canonical r q ∧ magnitude r q = magnitude (rounded m e) (cutExponent m e) ∧
      roundWithAccuracy .binary64 s m e .exact = ofMagnitude s r q := by
  have hc := canonical_cut hm he
  have hcut := hc.lt
  obtain ⟨hlow, hhigh⟩ := rounded_cases m e
  rcases Nat.lt_or_ge (rounded m e) (2 ^ 53) with hlt | hge
  · have hr : Canonical (rounded m e) (cutExponent m e) :=
      ⟨hlt, hc.le, hc.full.imp_left fun hfull => hfull.trans hlow⟩
    have hagain := hr.cutExponent_eq
    have hmantissa : (cut (rounded m e) (cutExponent m e)).mantissa = rounded m e := by
      rw [mantissa_cut (k := 0) (by omega), Nat.pow_zero, Nat.div_one]
    refine ⟨rounded m e, cutExponent m e, hr, rfl, ?_⟩
    rw [roundWithAccuracy_eq s he hagain.ge, hmantissa, hagain]
  · have hfull : rounded m e = 2 ^ 53 := by omega
    have hagain : cutExponent (2 ^ 53) (cutExponent m e) = cutExponent m e + 1 := by
      have hlog : Nat.log2 (2 ^ 53) = 53 := Nat.log2_two_pow
      have hle := hc.le
      rw [cutExponent, hlog]
      omega
    have hmantissa : (cut (2 ^ 53) (cutExponent m e)).mantissa = 2 ^ 52 := by
      rw [mantissa_cut (k := 1) (by rw [hagain]; rfl)]
      rfl
    have hle := hc.le
    refine ⟨2 ^ 52, cutExponent m e + 1, ⟨by decide, by omega, .inl le_rfl⟩, ?_, ?_⟩
    · rw [hfull, magnitude_succ rfl (2 ^ 52)]
      rfl
    · rw [roundWithAccuracy_eq s he (by rw [hfull, hagain]; omega), hfull, hmantissa, hagain]

/-- Rounding moves bits to the mantissa first where there are too few. -/
theorem exists_round_eq (s : Sign) (hm : m ≠ 0) (e : Int) :
    ∃ m' e', m' ≠ 0 ∧ e' ≤ cutExponent m' e' ∧ magnitude m' e' = magnitude m e ∧
      UnpackedFloat.round .binary64 s m e = roundWithAccuracy .binary64 s m' e' .exact := by
  obtain ⟨k, hk⟩ : ∃ k : Nat, (e - cutExponent m e).toNat = k := ⟨_, rfl⟩
  have hne : m * 2 ^ k ≠ 0 := Nat.mul_ne_zero hm (Nat.two_pow_pos k).ne'
  have hlog : (m * 2 ^ k).log2 = m.log2 + k := by
    rw [Nat.log2_eq_iff hne, Nat.add_right_comm, Nat.pow_add, Nat.pow_add]
    exact ⟨Nat.mul_le_mul_right _ (Nat.log2_self_le hm),
      Nat.mul_lt_mul_of_pos_right Nat.lt_log2_self (Nat.two_pow_pos k)⟩
  have hcut : cutExponent (m * 2 ^ k) (e - k) = cutExponent m e := by
    rw [cutExponent, cutExponent, hlog]
    congr 1
    push_cast
    omega
  refine ⟨m * 2 ^ k, e - k, hne, by omega, ?_, ?_⟩
  · rw [magnitude_shift, Int.sub_add_cancel]
  · simp only [UnpackedFloat.round, UnpackedFloat.decreaseExponent, targetExponent_eq, hk,
      Nat.shiftLeft_eq]

/-- A number brought to a smaller exponent. -/
theorem magnitude_decreaseExponent {f : Int} (h : f ≤ e) (m : Nat) :
    magnitude (UnpackedFloat.decreaseExponent m e f).1 f = magnitude m e := by
  obtain ⟨k, rfl⟩ := Int.le.dest h
  have hk : (f + k - f).toNat = k := by omega
  simp only [UnpackedFloat.decreaseExponent, hk, Nat.shiftLeft_eq, magnitude_shift]

/-- A number that is not zero is rounded. -/
theorem normalize_natCast {n : Nat} (hn : n ≠ 0) (e : Int) :
    UnpackedFloat.normalize .binary64 n e .positive =
      UnpackedFloat.round .binary64 .positive n e := by
  have hcompare : compare (n : Int) 0 = .gt := compare_gt_iff_gt.2 (by omega)
  simp only [UnpackedFloat.normalize, hcompare, Int.toNat_natCast]

/-- The sum of two positive numbers is rounded once, from a common exponent. -/
theorem exists_add_eq {m n : Nat} {e f : Int} (hm : 0 < m) (hn : 0 < n) :
    ∃ k g, k ≠ 0 ∧ g ≤ cutExponent k g ∧ magnitude k g = magnitude m e + magnitude n f ∧
      UnpackedFloat.add .binary64 (.finite .positive m e hm) (.finite .positive n f hn) =
        roundWithAccuracy .binary64 .positive k g .exact := by
  obtain ⟨a, ha⟩ : ∃ a, (UnpackedFloat.decreaseExponent m e (min e f)).1 = a := ⟨_, rfl⟩
  obtain ⟨b, hb⟩ : ∃ b, (UnpackedFloat.decreaseExponent n f (min e f)).1 = b := ⟨_, rfl⟩
  have hma : magnitude a (min e f) = magnitude m e := by
    rw [← ha, magnitude_decreaseExponent (min_le_left e f)]
  have hnb : magnitude b (min e f) = magnitude n f := by
    rw [← hb, magnitude_decreaseExponent (min_le_right e f)]
  have hpos : 0 < a := by
    rw [← ha, UnpackedFloat.decreaseExponent, Nat.shiftLeft_eq]
    exact Nat.mul_pos hm (Nat.two_pow_pos _)
  have hadd : UnpackedFloat.add .binary64 (.finite .positive m e hm) (.finite .positive n f hn) =
      UnpackedFloat.normalize .binary64 (a + b : Nat) (min e f) .positive := by
    rw [← ha, ← hb]
    rfl
  have hne : a + b ≠ 0 := by omega
  obtain ⟨k, g, hk, hg, hmagnitude, heq⟩ := exists_round_eq .positive hne (min e f)
  refine ⟨k, g, hk, hg, ?_, by rw [hadd, normalize_natCast hne, heq]⟩
  rw [hmagnitude, magnitude_add, hma, hnb]

/-- The product of two positive numbers of the format has more bits than are kept, unless both are
at the least exponent. -/
theorem Canonical.add_le_cutExponent {m n : Nat} {e f : Int} (hc : Canonical m e)
    (hd : Canonical n f) (hm : 0 < m) (hn : 0 < n) : e + f ≤ cutExponent (m * n) (e + f) := by
  have hcut : cutExponent (m * n) (e + f) =
      max (((m * n).log2 : Int) + 1 + (e + f) - 53) (-1074) := rfl
  -- If one of the factors has 53 bits, so has the product.
  have hbits : 2 ^ 52 ≤ m * n → e + f ≤ cutExponent (m * n) (e + f) := fun hfull => by
    have hlog := (Nat.le_log2 (Nat.mul_pos hm hn).ne').2 hfull
    omega
  rcases hc.full with hfull | hleast
  · exact hbits (hfull.trans (Nat.le_mul_of_pos_right m hn))
  · rcases hd.full with hfull | hleast'
    · exact hbits (hfull.trans (Nat.le_mul_of_pos_left n hm))
    · omega

end Cut

end Binary64
end Chip8
