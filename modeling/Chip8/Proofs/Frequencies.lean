/-
# Which configurations can be run

A configuration has two frequencies, and both the reading of a document and the making
of a scheduler refuse one that is known to be at most zero.  What they let through is
above zero, or not a number (`pos_or_isNaN`), and it may be infinite.  So a scheduler
is made of every configuration that is read, but it can count what is due only if
both frequencies are finite (`parse_drivable`), and there are documents that pass
both checks and stop at the first advance (`parse_not_drivable`).

That finite frequencies suffice is a matter of size.  At the first advance the clock
shows at most a quarter of a second, so the product with a frequency is below the
frequency and does not overflow (`exists_target_iff_isFinite`).
-/

import Chip8.Config.Parse
import Chip8.Proofs.Halting

namespace Chip8

/-! ### Floating-point numbers in order -/

namespace Binary64

open Float.Model (UnpackedFloat)

/-- Of two numbers in the form of the format the one with the larger exponent is not the smaller. -/
theorem Canonical.magnitude_le_of_lt {m n : Nat} {e f : Int} (hm : Canonical m e)
    (hn : Canonical n f) (h : e < f) : magnitude m e ≤ magnitude n f := by
  have hleast := hm.le
  have hfull : 2 ^ 52 ≤ n := hn.full_of_lt (by omega)
  have hlt := hm.lt
  calc magnitude m e
    _ ≤ magnitude (2 ^ 52 * 2) e := magnitude_le_iff.2 (by omega)
    _ = magnitude (2 ^ 52) (e + 1) := (magnitude_succ rfl _).symm
    _ ≤ magnitude n f := magnitude_le hfull h

section Measures

variable {u w : UnpackedFloat} {v z : ℚ}

/-- Numbers are compared by their exponents and then by their mantissas, and so are the values. -/
theorem Measures.le_of_not_lt (hu : Measures u v) (hw : Measures w z) (h : ¬w.lt u = true) :
    v ≤ z := by
  cases hu with
  | zero s => exact hw.nonneg
  | @finite m e hm hc hmax =>
    cases hw with
    | zero s => exact absurd rfl h
    | @finite n f hn hd hmax' =>
      have hcompare : ¬(compare f e).then (compare n m) = .lt := by
        intro hlt
        exact h (beq_iff_eq.2 (congrArg some hlt))
      rw [Ordering.then_eq_lt, compare_lt_iff_lt, compare_eq_iff_eq, compare_lt_iff_lt] at hcompare
      rcases lt_trichotomy e f with hlt | rfl | hgt
      · exact hc.magnitude_le_of_lt hd hlt
      · rw [magnitude_le_iff]
        by_contra hnm
        exact hcompare (.inr ⟨rfl, by omega⟩)
      · exact absurd (.inl hgt) hcompare

/-- Nothing comes of adding to zero but the number itself. -/
theorem Measures.zero_add (h : Measures u v) :
    Measures (.add .binary64 (.zero .positive) u) v := by
  cases h with
  | zero s => cases s <;> exact .zero .positive
  | finite hm hc hmax => exact .finite hm hc hmax

/-- A number that is neither negative nor larger than a finite one is finite. -/
theorem Measures.isFinite_of_not_lt (hw : Measures w z) (hneg : ¬u.lt (.zero .positive) = true)
    (hlt : ¬w.lt u = true) (hnan : u.isNaN = false) : u.isFinite = true := by
  cases u with
  | notANumber => cases hnan
  | infinity sign =>
    cases sign with
    | positive =>
      -- An infinite number is above every number that has a value.
      have habove : w.lt (.infinity .positive) = true := by cases hw <;> rfl
      exact absurd habove hlt
    | negative => exact absurd rfl hneg
  | zero sign => rfl
  | finite sign m e hm => rfl

end Measures

section Float

variable {x y : Float} {v z : ℚ}

/-- Of numbers with values the one that is not larger has the value that is not larger. -/
theorem HasValue.le_of_not_lt (hx : HasValue x v) (hy : HasValue y z) (h : ¬y < x) : v ≤ z :=
  Measures.le_of_not_lt hx hy fun hlt => h (decide_eq_true hlt)

/-- To add a number to zero gives its value exactly. -/
theorem HasValue.zero_add (h : HasValue x v) : HasValue (0 + x) v :=
  (Measures.zero_add h).hasValue_pack

/-- What has a value is a number, and not below zero. -/
theorem HasValue.not_lt_zero (h : HasValue x v) : ¬x < 0 ∧ x.isNaN = false := by
  have hmeasures : ∀ {u : UnpackedFloat}, Measures u v →
      u.lt (.zero .positive) = false ∧ u.isNaN = false := by
    intro u hu
    cases hu with
    | zero s => exact ⟨rfl, rfl⟩
    | finite hm hc hmax => exact ⟨rfl, rfl⟩
  obtain ⟨hlt, hnan⟩ := hmeasures h
  exact ⟨fun hneg => absurd (of_decide_eq_true hneg) (ne_true_of_eq_false hlt), hnan⟩

/-- **What a check for at most zero lets through.** -/
theorem pos_or_isNaN (h : ¬x ≤ 0) : 0 < x ∨ x.isNaN = true := by
  have hle : ¬x.toModel.unpack.le (.zero .positive) = true := fun hle => h (decide_eq_true hle)
  have hlt : (UnpackedFloat.zero .positive).lt x.toModel.unpack = true → 0 < x :=
    fun hlt => decide_eq_true hlt
  have hnan : x.toModel.unpack.isNaN = true → x.isNaN = true := id
  cases hu : x.toModel.unpack with
  | notANumber => exact .inr (hnan (by rw [hu]; rfl))
  | infinity sign =>
    cases sign with
    | positive => exact .inl (hlt (by rw [hu]; rfl))
    | negative => exact absurd (by rw [hu]; rfl) hle
  | zero sign => exact absurd (by rw [hu]; rfl) hle
  | finite sign m e hm =>
    cases sign with
    | positive => exact .inl (hlt (by rw [hu]; rfl))
    | negative => exact absurd (by rw [hu]; rfl) hle

/-- A number between zero and another number is finite. -/
theorem HasValue.isFinite_of_not_lt (hy : HasValue y z) (hneg : ¬x < 0) (hlt : ¬y < x)
    (hnan : x.isNaN = false) : x.isFinite = true :=
  Measures.isFinite_of_not_lt hy (fun h => hneg (decide_eq_true h)) (fun h => hlt (decide_eq_true h))
    hnan

end Float

end Binary64

namespace Scheduler

open Binary64 (HasValue Unsigned)

/-- The cap on the time that counts, a quarter of a second. -/
theorem exists_value_maxCatchUp : ∃ v, HasValue defaultMaxCatchUp v ∧ v ≤ 1 := by
  refine ⟨Binary64.magnitude (2 ^ 52) (-54), ?_, ?_⟩
  · have hunpack : defaultMaxCatchUp.toModel.unpack =
        .finite .positive (2 ^ 52) (-54) (by decide) := rfl
    rw [HasValue, hunpack]
    exact .finite (by decide) ⟨by decide, by decide, .inl le_rfl⟩ (by decide)
  · norm_num [Binary64.magnitude]

/-- The time that counts is at most a second. -/
theorem exists_value_smaller {elapsed : Float} (hneg : ¬elapsed < 0)
    (hnan : elapsed.isNaN = false) :
    ∃ v, HasValue (ClockArithmetic.smaller elapsed defaultMaxCatchUp) v ∧ v ≤ 1 := by
  obtain ⟨cap, hcap, hle⟩ := exists_value_maxCatchUp
  rw [ClockArithmetic.smaller]
  by_cases hless : ClockArithmetic.less defaultMaxCatchUp elapsed = true
  · rw [if_pos hless]
    exact ⟨cap, hcap, hle⟩
  · rw [if_neg hless]
    have hlt : ¬defaultMaxCatchUp < elapsed := fun hlt => hless (decide_eq_true hlt)
    obtain ⟨v, hv⟩ := Binary64.unsigned_of_not_lt hneg (hcap.isFinite_of_not_lt hneg hlt hnan)
    exact ⟨v, hv, (hv.le_of_not_lt hcap hlt).trans hle⟩

/-- **Within a second every finite frequency can be counted,** and no other at any time. -/
theorem exists_target_iff_isFinite {now hz : Float} {v : ℚ} (hnow : HasValue now v) (hv : v ≤ 1)
    (hhz : Unsigned hz) : (∃ k, target now hz = .ok k) ↔ hz.isFinite = true := by
  rw [exists_target_iff]
  constructor
  · intro h
    obtain ⟨hproduct, -⟩ := Binary64.isFinite_of_add h
    exact (Binary64.isFinite_of_mul hproduct).2
  · intro h
    obtain ⟨w, hw⟩ := hhz h
    have hlt : v * w < Binary64.ceiling :=
      calc v * w ≤ 1 * w := mul_le_mul_of_nonneg_right hv (Binary64.Measures.nonneg hw)
        _ = w := one_mul w
        _ < Binary64.ceiling := Binary64.Measures.lt_ceiling hw
    obtain ⟨p, hp, -⟩ := (hnow.mul hw).exists_value hlt
    obtain ⟨slack, hslack, hsmall⟩ := exists_slack
    obtain ⟨q, hq, -⟩ := (hp.add hslack).exists_value (Binary64.Measures.add_lt_ceiling hp hsmall)
    exact hq.isFinite

section Start

variable {μ : Type} [Driven μ] {P : μ → Prop} {m : μ} {cpuHz timerHz : Float}

/-- **The first advance of a scheduler fails just if a frequency is not finite.** -/
theorem advance_start_iff (hP : Driven.Reliable P) (hm : P m) (hcpu : Unsigned cpuHz)
    (htimer : Unsigned timerHz) {elapsed : Float} (hneg : ¬elapsed < 0)
    (hnan : elapsed.isNaN = false) :
    ((start cpuHz timerHz defaultMaxCatchUp).advance m elapsed).error? = none ↔
      cpuHz.isFinite = true ∧ timerHz.isFinite = true := by
  obtain ⟨v, hv, hle⟩ := exists_value_smaller hneg hnan
  have hcycles := exists_target_iff_isFinite hv.zero_add hle hcpu
  have hticks := exists_target_iff_isFinite hv.zero_add hle htimer
  rcases targets_cases (start cpuHz timerHz defaultMaxCatchUp) elapsed with
    hnegative | ⟨-, ⟨cycleTarget, tickTarget, hcycle, htick, hok⟩ | ⟨e, he, hnone⟩⟩
  · have hless : ¬ClockArithmetic.less elapsed ClockArithmetic.zero = true :=
      fun hless => hneg (of_decide_eq_true hless)
    rw [targets, if_neg hless] at hnegative
    split at hnegative <;> cases hnegative
  · rw [advance_eq hP hm hok]
    exact iff_of_true rfl ⟨hcycles.1 ⟨_, hcycle⟩, hticks.1 ⟨_, htick⟩⟩
  · rw [advance_of_refused m he]
    refine iff_of_false (Option.some_ne_none _) ?_
    rintro ⟨hcpuFinite, htimerFinite⟩
    obtain ⟨cycleTarget, hcycle⟩ := hcycles.2 hcpuFinite
    obtain ⟨tickTarget, htick⟩ := hticks.2 htimerFinite
    exact hnone cycleTarget tickTarget hcycle htick

/-- The same for a time that is a number of any kind. -/
theorem advanceBy_start_iff (hP : Driven.Reliable P) (hm : P m) (hcpu : Unsigned cpuHz)
    (htimer : Unsigned timerHz) {elapsed : Number} (hneg : elapsed.negative = false)
    (hnan : ∀ x, elapsed = .float x → x.isNaN = false) :
    ((start cpuHz timerHz defaultMaxCatchUp).advanceBy m elapsed).error? = none ↔
      cpuHz.isFinite = true ∧ timerHz.isFinite = true := by
  rw [advanceBy, if_neg (ne_true_of_eq_false hneg)]
  cases elapsed with
  | float x =>
    have hx : ¬x < 0 := of_decide_eq_false hneg
    exact advance_start_iff hP hm hcpu htimer hx (hnan x rfl)
  | int n =>
    have hn : ¬n < 0 := of_decide_eq_false hneg
    obtain ⟨k, rfl⟩ := Int.eq_ofNat_of_zero_le (by omega : 0 ≤ n)
    rw [Number.toFloat?, Number.nearest?]
    by_cases hfinite : (Float.ofInt k).isFinite = true
    · obtain ⟨v, hv⟩ := Binary64.unsigned_ofNat k hfinite
      obtain ⟨hpos, hnumber⟩ := HasValue.not_lt_zero hv
      simp only [if_pos hfinite]
      exact advance_start_iff hP hm hcpu htimer hpos hnumber
    · -- An integer that is too large is above the cap.
      obtain ⟨cap, hcap, -⟩ := exists_value_maxCatchUp
      obtain ⟨hpos, hnumber⟩ := hcap.not_lt_zero
      have hcapFinite : (start cpuHz timerHz defaultMaxCatchUp).maxCatchUp.isFinite = true :=
        hcap.isFinite
      simp only [if_neg hfinite, if_pos hcapFinite]
      exact advance_start_iff hP hm hcpu htimer hpos hnumber

end Start

end Scheduler

/-! ### What the reading of a document lets through -/

/-- Two steps succeed only if the first one does, and the second one with what it gives. -/
theorem exists_of_bind_eq_ok {ε α β : Type} {x : Except ε α} {f : α → Except ε β} {b : β}
    (h : (x >>= f) = .ok b) : ∃ a, x = .ok a ∧ f a = .ok b := by
  cases x with
  | error e => cases h
  | ok a => exact ⟨a, rfl, h⟩

namespace Config

variable {d : Document} {entries : List (Value × Value)} {name : String} {hz default : Float}

/-- A refusal accepts nothing. -/
theorem refuse_ne_ok {α : Type} (error : Except ConfigError ConfigError) (a : α) :
    refuse error ≠ .ok a := by
  cases error <;> rintro ⟨⟩

/-- A frequency that is read is not at most zero. -/
theorem not_le_of_frequency {v : Value} (h : frequency d name v = .ok hz) : ¬hz ≤ 0 := by
  obtain ⟨x, -, hread⟩ := exists_of_bind_eq_ok h
  by_cases hx : x ≤ 0
  · rw [if_pos hx] at hread
    exact absurd hread (refuse_ne_ok _ _)
  · rw [if_neg hx] at hread
    obtain rfl : x = hz := Except.ok.inj hread
    exact hx

/-- Nor is one that has its default. -/
theorem not_le_of_field (hdefault : ¬default ≤ 0)
    (h : field entries name default (frequency d name) = .ok hz) : ¬hz ≤ 0 := by
  rw [field] at h
  cases hlookup : lookup? entries name with
  | none =>
    rw [hlookup] at h
    obtain rfl : default = hz := Except.ok.inj h
    exact hdefault
  | some v =>
    rw [hlookup] at h
    exact not_le_of_frequency h

/-- A machine's section that is accepted has no frequency that is at most zero. -/
theorem not_le_of_machine {c : MachineConfig} (h : machine d entries = .ok c) :
    ¬c.cpuHz ≤ 0 ∧ ¬c.timerHz ≤ 0 := by
  obtain ⟨cpuHz, hcpu, h⟩ := exists_of_bind_eq_ok h
  obtain ⟨timerHz, htimer, h⟩ := exists_of_bind_eq_ok h
  obtain ⟨keyScan, -, h⟩ := exists_of_bind_eq_ok h
  obtain ⟨seed, -, h⟩ := exists_of_bind_eq_ok h
  obtain ⟨logLevel, -, h⟩ := exists_of_bind_eq_ok h
  obtain rfl := Except.ok.inj h
  exact ⟨not_le_of_field (of_decide_eq_false rfl) hcpu,
    not_le_of_field (of_decide_eq_false rfl) htimer⟩

/-- A configuration that is accepted has no frequency that is at most zero. -/
theorem not_le_of_parse {c : SystemConfig} (h : parse d = .ok c) :
    ¬c.machine.cpuHz ≤ 0 ∧ ¬c.machine.timerHz ≤ 0 := by
  unfold parse at h
  extract_lets go at h
  obtain ⟨entries, h⟩ : ∃ entries, go entries = .ok c := by
    split at h
    · exact ⟨[], h⟩
    · split at h
      · exact ⟨_, h⟩
      · cases h
  obtain ⟨machineEntries, -, h⟩ := exists_of_bind_eq_ok h
  obtain ⟨displayEntries, -, h⟩ := exists_of_bind_eq_ok h
  obtain ⟨machine, hmachine, h⟩ := exists_of_bind_eq_ok h
  obtain ⟨display, -, h⟩ := exists_of_bind_eq_ok h
  obtain ⟨keymap, -, h⟩ := exists_of_bind_eq_ok h
  obtain rfl := Except.ok.inj h
  exact not_le_of_machine hmachine

/-- A scheduler is made of frequencies that are not at most zero. -/
theorem scheduler_eq {c : SystemConfig} (hcpu : ¬c.machine.cpuHz ≤ 0)
    (htimer : ¬c.machine.timerHz ≤ 0) :
    c.scheduler = .ok (.start c.machine.cpuHz c.machine.timerHz defaultMaxCatchUp) := by
  have hfrequencies : (Number.float c.machine.cpuHz).notPositive = false ∧
      (Number.float c.machine.timerHz).notPositive = false :=
    ⟨decide_eq_false hcpu, decide_eq_false htimer⟩
  have hcap : (Number.float defaultMaxCatchUp).notPositive = false := rfl
  rw [SystemConfig.scheduler, Scheduler.ofNumbers, hfrequencies.1, hfrequencies.2, hcap]
  rfl

/-- **Which configurations can be run.**  A scheduler is made of every configuration that is read
from a document, and each of the two frequencies is above zero or not a number.  Let the first
advance be by any time that is a number and not negative.  It fails just if a frequency is not a
finite number. -/
theorem parse_advance_iff {d : Document} {c : SystemConfig} (h : parse d = .ok c) :
    ∃ s, c.scheduler = .ok s ∧
      (∀ hz ∈ [c.machine.cpuHz, c.machine.timerHz], 0 < hz ∨ hz.isNaN = true) ∧
      ∀ elapsed : Number, elapsed.negative = false →
        (∀ x, elapsed = .float x → x.isNaN = false) →
          ((s.advanceBy c.build elapsed).error? = none ↔
            c.machine.cpuHz.isFinite = true ∧ c.machine.timerHz.isFinite = true) := by
  obtain ⟨hcpu, htimer⟩ := not_le_of_parse h
  refine ⟨_, scheduler_eq hcpu htimer, ?_, ?_⟩
  · intro hz hmem
    rcases List.mem_cons.1 hmem with rfl | hmem
    · exact Binary64.pos_or_isNaN hcpu
    · obtain rfl := List.mem_singleton.1 hmem
      exact Binary64.pos_or_isNaN htimer
  · intro elapsed hneg hnan
    have hunsigned : ∀ {hz : Float}, ¬hz ≤ 0 → Binary64.Unsigned hz := fun hle =>
      Binary64.unsigned_of_not_lt (mt Binary64.le_of_lt hle)
    have hm : c.build.Bounded ∧ c.build.Recorded :=
      ⟨Machine.bounded_new _ _, Machine.recorded_of_start rfl rfl⟩
    exact Scheduler.advanceBy_start_iff Machine.reliable hm (hunsigned hcpu) (hunsigned htimer)
      hneg hnan

/-! ### Documents that choose a frequency -/

/-- A document that chooses the frequency of the cycles and nothing else. -/
def choosing (hz : Float) : Document where
  collections := #[.map [(.str "machine", .collection 1)], .map [(.str "cpu_hz", .float hz)]]
  root := .collection 0

/-- Such a document is accepted, unless the frequency is at most zero. -/
theorem parse_choosing (h : ¬hz ≤ 0) : parse (choosing hz) = .ok { machine := { cpuHz := hz } } := by
  have hread : field [(.str "cpu_hz", .float hz)] "cpu_hz" defaultCpuHz
      (frequency (choosing hz) "cpu_hz") = .ok hz := if_neg h
  have hmachine : machine (choosing hz) [(.str "cpu_hz", .float hz)] = .ok { cpuHz := hz } := by
    rw [machine, hread]
    rfl
  have hparse : parse (choosing hz) = do
      let machine ← machine (choosing hz) [(.str "cpu_hz", .float hz)]
      return { machine } := rfl
  rw [hparse, hmachine]
  rfl

/-- A whole quarter of a second at a thousand cycles a second. -/
theorem parse_advance_iff_thousand :
    ∃ c s, parse (choosing 1000) = .ok c ∧ c.scheduler = .ok s ∧ 0 < c.machine.cpuHz ∧
      (s.advanceBy c.build (.float 0.25)).error? = none := by
  have h : parse (choosing 1000) = .ok { machine := { cpuHz := 1000 } } :=
    parse_choosing (of_decide_eq_false rfl)
  obtain ⟨s, hs, -, hadvance⟩ := parse_advance_iff h
  refine ⟨_, s, h, hs, of_decide_eq_true rfl, ?_⟩
  exact (hadvance (.float 0.25) rfl fun x hx => by cases hx; rfl).2 ⟨rfl, rfl⟩

/-- **Accepted, and yet not fit to be run.**  A frequency that is not a number is not known to be at
most zero, so the document is accepted and a scheduler is made, which refuses to advance.  An
infinite frequency fares no better. -/
theorem parse_advance_fails :
    ∃ c s c' s', parse (choosing (0 / 0)) = .ok c ∧ c.scheduler = .ok s ∧
      c.machine.cpuHz.isNaN = true ∧
      (s.advanceBy c.build (.float 0.1)).error? = some (.floor .nan) ∧
      parse (choosing (1 / 0)) = .ok c' ∧ c'.scheduler = .ok s' ∧
      c'.machine.cpuHz.isFinite = false ∧
      (s'.advanceBy c'.build (.float 0.1)).error? = some (.floor .infinite) := by
  refine ⟨_, _, _, _, parse_choosing (of_decide_eq_false rfl), rfl, rfl, rfl,
    parse_choosing (of_decide_eq_false rfl), rfl, rfl, rfl⟩

end Config

end Chip8
