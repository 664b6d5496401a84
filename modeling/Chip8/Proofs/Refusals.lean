/-
# Advances that are refused

An advance fails in one of two ways, if the machine's cycles are answered.  It
can refuse its argument, and then nothing has happened.  Or it cannot tell how
much is due, because the time is infinite or not a number; the machine and the
counters are then as they were, but the clock has been moved on already.

That matters.  Floating point has no way back from the numbers that are not
finite: whatever is added to one of them, or multiplied with it, comes out not
finite again.  A scheduler with such a clock refuses every further advance
(`ClockLost.advance`) and leaves its machine alone from then on
(`ClockLost.drive`), until it is reset.  One single elapsed time that is not a
number does this to any scheduler (`advance_of_isNaN`), since the check for
negative times lets it pass.
-/

import Chip8.Proofs.Schedule

namespace Chip8

/-! ### Floating-point numbers that are not finite -/

namespace Binary64

open Float.Model (UnpackedFloat Format)

/-- Neither sums nor products lead back to the finite numbers. -/
theorem isFinite_add {u : UnpackedFloat} (h : u.isFinite = false) (v : UnpackedFloat) :
    (UnpackedFloat.add .binary64 u v).isFinite = false := by
  cases u with
  | notANumber => rfl
  | infinity sign =>
    cases v with
    | notANumber => rfl
    | infinity other => cases sign <;> cases other <;> rfl
    | zero other => rfl
    | finite other m e hm => rfl
  | zero sign => cases h
  | finite sign m e hm => cases h

/-- A product with a factor that is not finite is not finite. -/
theorem isFinite_mul {u : UnpackedFloat} (h : u.isFinite = false) (v : UnpackedFloat) :
    (UnpackedFloat.mul .binary64 u v).isFinite = false := by
  cases u with
  | notANumber => rfl
  | infinity sign =>
    cases v with
    | notANumber => rfl
    | infinity other => rfl
    | zero other => rfl
    | finite other m e hm => rfl
  | zero sign => cases h
  | finite sign m e hm => cases h

/-- A number that is not finite survives its packing into bits, and has no floor. -/
theorem pack_of_not_finite {u : UnpackedFloat} (h : u.isFinite = false) :
    (Float.ofModel (.pack u)).isFinite = false ∧
      ∃ e, (ofFloat (.ofModel (.pack u))).floor = .error e := by
  cases u with
  | notANumber => exact ⟨rfl, .nan, rfl⟩
  | infinity sign =>
    cases sign with
    | positive => exact ⟨rfl, .infinite, rfl⟩
    | negative => exact ⟨rfl, .infinite, rfl⟩
  | zero sign => cases h
  | finite sign m e hm => cases h

/-- A sum with a summand that is not finite is not finite, and cannot be counted. -/
theorem isFinite_add_float {x : Float} (h : x.isFinite = false) (y : Float) :
    (x + y).isFinite = false ∧ ∃ e, (ofFloat (x + y)).floor = .error e :=
  pack_of_not_finite (isFinite_add h y.toModel.unpack)

/-- So it is with the product of floating-point numbers. -/
theorem isFinite_mul_float {x : Float} (h : x.isFinite = false) (y : Float) :
    (x * y).isFinite = false :=
  (pack_of_not_finite (isFinite_mul h y.toModel.unpack)).1

/-- What comes of anything that is not a number. -/
def notANumber : Float := .ofModel (.pack .notANumber)

/-- What is not a number is read as such. -/
theorem unpack_of_isNaN {x : Float} (h : x.isNaN = true) : x.toModel.unpack = .notANumber := by
  have hmodel : x.toModel.unpack.isNaN = true := h
  cases hu : x.toModel.unpack with
  | notANumber => rfl
  | infinity sign => rw [hu] at hmodel; cases hmodel
  | zero sign => rw [hu] at hmodel; cases hmodel
  | finite sign m e hm => rw [hu] at hmodel; cases hmodel

/-- What is not a number is neither below another number nor above it. -/
theorem not_lt_of_isNaN {x : Float} (h : x.isNaN = true) (y : Float) : ¬x < y ∧ ¬y < x := by
  constructor
  · intro hlt
    have hmodel : x.toModel.unpack.lt y.toModel.unpack = true := of_decide_eq_true hlt
    rw [unpack_of_isNaN h] at hmodel
    cases hmodel
  · intro hlt
    have hmodel : y.toModel.unpack.lt x.toModel.unpack = true := of_decide_eq_true hlt
    rw [unpack_of_isNaN h] at hmodel
    cases hu : y.toModel.unpack <;> rw [hu] at hmodel <;> cases hmodel

/-- A sum with what is not a number is not a number. -/
theorem add_of_isNaN (x : Float) {y : Float} (h : y.isNaN = true) : x + y = notANumber := by
  have hsum : ∀ u : UnpackedFloat, UnpackedFloat.add .binary64 u .notANumber = .notANumber := by
    intro u
    cases u <;> rfl
  have hpack : x + y = .ofModel (.pack (.add .binary64 x.toModel.unpack y.toModel.unpack)) := rfl
  rw [hpack, unpack_of_isNaN h, hsum]
  rfl

theorem unpack_notANumber : notANumber.toModel.unpack = .notANumber := rfl

/-- Nor is a product. -/
theorem notANumber_mul (x : Float) : notANumber * x = notANumber :=
  congrArg (fun u => Float.ofModel (.pack (.mul .binary64 u x.toModel.unpack))) unpack_notANumber

/-- Nor is a sum in which it comes first. -/
theorem notANumber_add (x : Float) : notANumber + x = notANumber :=
  congrArg (fun u => Float.ofModel (.pack (.add .binary64 u x.toModel.unpack))) unpack_notANumber

theorem floor_notANumber : (ofFloat notANumber).floor = .error .nan := rfl

theorem isFinite_notANumber : notANumber.isFinite = false := rfl

theorem isNaN_notANumber : notANumber.isNaN = true := rfl

end Binary64

namespace Scheduler

section Refused

variable {α μ : Type} [ClockArithmetic α] [Driven μ] {P : μ → Prop} {m : μ} {s : Scheduler α}
  {elapsed : α} {e : AdvanceError}

/-- It cannot be told how much is due only if the time is negative or cannot be counted. -/
theorem targets_eq_error (h : s.targets elapsed = .error e) :
    e = .negative ∨ ∃ why, e = .floor why := by
  rw [targets] at h
  split at h
  · exact .inl (Except.error.inj h).symm
  · split at h
    · exact .inr ⟨_, (Except.error.inj h).symm⟩
    · exact .inr ⟨_, (Except.error.inj h).symm⟩
    · cases h

/-- **What an advance leaves that fails**: all is as it was, but for the clock. -/
theorem advance_refused (hP : Driven.Reliable P) (hm : P m)
    (h : (s.advance m elapsed).error? = some e) :
    e = .negative ∧ s.advance m elapsed = .refused s m e ∨
      ∃ why, e = .floor why ∧ s.advance m elapsed = .refused (s.moved elapsed) m e := by
  cases htargets : s.targets elapsed with
  | error e' =>
    rw [advance_of_refused m htargets] at h ⊢
    obtain rfl : e' = e := Option.some.inj h
    rcases targets_eq_error htargets with rfl | ⟨why, rfl⟩
    · exact .inl ⟨rfl, rfl⟩
    · exact .inr ⟨why, rfl, rfl⟩
  | ok targets =>
    rw [advance_eq hP hm htargets] at h
    cases h

end Refused

variable {s : Scheduler Float}

/-- The clock is at a time that is not finite. -/
def ClockLost (s : Scheduler Float) : Prop := s.now.isFinite = false

/-- A clock that is lost stays lost. -/
theorem ClockLost.moved (h : s.ClockLost) (elapsed : Float) : (s.moved elapsed).ClockLost :=
  (Binary64.isFinite_add_float h _).1

/-- At a time that is not finite nothing can be counted. -/
theorem target_of_not_finite {now : Float} (h : now.isFinite = false) (hz : Float) :
    ∃ e, target now hz = .error e :=
  (Binary64.isFinite_add_float (Binary64.isFinite_mul_float h hz) _).2

/-- Without a clock it cannot be told how much is due, whatever the time. -/
theorem ClockLost.targets (h : s.ClockLost) (elapsed : Float) :
    ∃ e, s.targets elapsed = .error e := by
  by_cases hneg : ClockArithmetic.less elapsed ClockArithmetic.zero = true
  · exact ⟨.negative, if_pos hneg⟩
  · obtain ⟨e, he⟩ := target_of_not_finite (h.moved elapsed) s.cpuHz
    refine ⟨.floor e, ?_⟩
    rw [Scheduler.targets, if_neg hneg, he]

variable {μ : Type} [Driven μ] {P : μ → Prop} {m : μ}

/-- **A scheduler that has lost its clock refuses every advance**, whatever the machine, and its
clock stays lost. -/
theorem ClockLost.advance (h : s.ClockLost) (m : μ) (elapsed : Float) :
    ∃ k e, k.ClockLost ∧ s.advance m elapsed = .refused k m e := by
  obtain ⟨e, he⟩ := h.targets elapsed
  rw [advance_of_refused m he]
  split
  · exact ⟨s, e, h, rfl⟩
  · exact ⟨s.moved elapsed, e, h.moved elapsed, rfl⟩

/-- **It never comes to itself**: whatever the host goes on to do, nothing is issued any more. -/
theorem ClockLost.drive (h : s.ClockLost) (m : μ) (turns : List (Turn Float μ)) :
    (s.drive m turns).slots = [] ∧ (s.drive m turns).calls = [] ∧
      (s.drive m turns).machine = turns.foldl (fun m turn => turn.handle m) m := by
  induction turns generalizing s m with
  | nil => exact ⟨rfl, rfl, rfl⟩
  | cons turn turns ih =>
    obtain ⟨k, e, hk, hadvance⟩ := h.advance (turn.handle m) turn.elapsed
    obtain ⟨e', he'⟩ := h.targets turn.elapsed
    obtain ⟨hslots, hcalls, hmachine⟩ := ih hk (turn.handle m)
    rw [Scheduler.drive, hadvance, slots_of_refused he', Advance.refused_scheduler,
      Advance.refused_machine, Advance.refused_calls, hslots, hcalls, hmachine]
    exact ⟨rfl, rfl, rfl⟩

/-- A time that is not a number is not negative, and so it gets to the clock. -/
theorem advance_of_isNaN (s : Scheduler Float) (m : μ) {elapsed : Float}
    (h : elapsed.isNaN = true) :
    s.advance m elapsed = .refused { s with now := Binary64.notANumber } m (.floor .nan) := by
  have hneg : ¬ClockArithmetic.less elapsed ClockArithmetic.zero = true := fun hless =>
    (Binary64.not_lt_of_isNaN h 0).1 (of_decide_eq_true hless)
  have hcap : ¬ClockArithmetic.less s.maxCatchUp elapsed = true := fun hless =>
    (Binary64.not_lt_of_isNaN h s.maxCatchUp).2 (of_decide_eq_true hless)
  have hmoved : s.moved elapsed = { s with now := Binary64.notANumber } := by
    rw [Scheduler.moved, ClockArithmetic.smaller, if_neg hcap]
    exact congrArg (fun now => { s with now }) (Binary64.add_of_isNaN s.now h)
  have htarget : target Binary64.notANumber s.cpuHz = .error .nan := by
    have hcount : ∀ slack : Float, Binary64.notANumber * s.cpuHz + slack = Binary64.notANumber := by
      intro slack
      rw [Binary64.notANumber_mul, Binary64.notANumber_add]
    exact (congrArg (fun x => (Binary64.ofFloat x).floor) (hcount _)).trans Binary64.floor_notANumber
  have htargets : s.targets elapsed = .error (.floor .nan) := by
    rw [Scheduler.targets, if_neg hneg, hmoved, htarget]
  rw [advance_of_refused m htargets, if_neg (by decide), hmoved]

/-- An advance by what is not a number is refused, but the clock is lost to it. -/
theorem advanceBy_of_isNaN (s : Scheduler Float) (m : μ) {x : Float} (h : x.isNaN = true) :
    s.advanceBy m (.float x) = .refused { s with now := Binary64.notANumber } m (.floor .nan) := by
  have hneg : ¬Number.negative (.float x) = true := fun hless =>
    (Binary64.not_lt_of_isNaN h 0).1 (of_decide_eq_true hless)
  rw [advanceBy, if_neg hneg]
  exact s.advance_of_isNaN m h

/-- An advance by a number of any kind either refuses the number, or is one by a floating-point
number. -/
theorem advanceBy_cases (s : Scheduler Float) (m : μ) (elapsed : Number) :
    (∃ e, (e = .negative ∨ e = .tooLarge) ∧ s.advanceBy m elapsed = .refused s m e) ∨
      ∃ x, (elapsed.toFloat? = some x ∨ elapsed.toFloat? = none ∧ x = s.maxCatchUp) ∧
        s.advanceBy m elapsed = s.advance m x := by
  rw [advanceBy]
  split
  · exact .inl ⟨.negative, .inl rfl, rfl⟩
  · cases h : elapsed.toFloat? with
    | some x => exact .inr ⟨x, .inl rfl, rfl⟩
    | none =>
      by_cases hfinite : s.maxCatchUp.isFinite = true
      · exact .inr ⟨s.maxCatchUp, .inr ⟨rfl, rfl⟩, if_pos hfinite⟩
      · exact .inl ⟨.tooLarge, .inr rfl, if_neg hfinite⟩

/-- **An advance by any number counts its calls**, whatever the machine does. -/
theorem advanceBy_counted (s : Scheduler Float) (m : μ) (elapsed : Number) :
    (s.advanceBy m elapsed).Counted := by
  rcases s.advanceBy_cases m elapsed with ⟨e, he, ha⟩ | ⟨x, -, ha⟩
  · rw [ha]
    refine Advance.counted_refused s m fun e' hcycle => ?_
    subst hcycle
    rcases he with he | he <;> cases he
  · rw [ha]
    exact s.advance_counted m x

/-- An advance by a number of any kind fails in one of two ways: the number is refused and nothing
changes, or the clock has moved and what is due cannot be counted. -/
theorem advanceBy_refused_cases (hP : Driven.Reliable P) (s : Scheduler Float) (hm : P m)
    {elapsed : Number} {e : AdvanceError} (h : (s.advanceBy m elapsed).error? = some e) :
    (e = .negative ∨ e = .tooLarge) ∧ s.advanceBy m elapsed = .refused s m e ∨
      ∃ why x, e = .floor why ∧
        (elapsed.toFloat? = some x ∨ elapsed.toFloat? = none ∧ x = s.maxCatchUp) ∧
        s.advanceBy m elapsed = .refused (s.moved x) m e := by
  rcases s.advanceBy_cases m elapsed with ⟨e', hkind, ha⟩ | ⟨x, hx, ha⟩
  · rw [ha] at h ⊢
    obtain rfl : e' = e := Option.some.inj h
    exact .inl ⟨hkind, rfl⟩
  · rw [ha] at h ⊢
    rcases advance_refused hP hm h with ⟨hkind, hs⟩ | ⟨why, hkind, hs⟩
    · exact .inl ⟨.inl hkind, hs⟩
    · exact .inr ⟨why, x, hkind, hx, hs⟩

/-- **What a failed advance leaves behind.**  The machine is not called, and the counters and the
last fault are as they were.  If the argument was refused, the clock is too; but if it cannot be told
how much is due, then the clock has been moved on by the time that counts.  A reset undoes that.
Without one, a clock that is then at a time that is not finite keeps the scheduler from ever issuing
anything again; and that is what a time that is not a number does to every scheduler. -/
theorem advanceBy_refused (hP : Driven.Reliable P) (s : Scheduler Float) (hm : P m) :
    (∀ elapsed e, (s.advanceBy m elapsed).error? = some e →
      let a := s.advanceBy m elapsed
      a.machine = m ∧ a.calls = [] ∧ a.scheduler = { s with now := a.scheduler.now } ∧
        a.scheduler.reset = s.reset ∧
        ((e = .negative ∨ e = .tooLarge) ∧ a.scheduler.now = s.now ∨
          ∃ why x, e = .floor why ∧
            (elapsed.toFloat? = some x ∨ elapsed.toFloat? = none ∧ x = s.maxCatchUp) ∧
            a.scheduler.now = s.now + ClockArithmetic.smaller x s.maxCatchUp) ∧
        (a.scheduler.now.isFinite = false →
          ∀ turns : List (Turn Float μ), (a.scheduler.drive m turns).calls = [])) ∧
      ∀ x : Float, x.isNaN = true →
        (s.advanceBy m (.float x)).error? = some (.floor .nan) ∧
          (s.advanceBy m (.float x)).scheduler.now.isFinite = false := by
  constructor
  · intro elapsed e h
    rcases s.advanceBy_refused_cases hP hm h with ⟨hkind, ha⟩ | ⟨why, x, hkind, hx, ha⟩
    · rw [ha]
      refine ⟨rfl, rfl, rfl, rfl, .inl ⟨hkind, rfl⟩, fun hnow turns => ?_⟩
      exact (ClockLost.drive hnow m turns).2.1
    · rw [ha]
      refine ⟨rfl, rfl, rfl, rfl, .inr ⟨why, x, hkind, hx, rfl⟩, fun hnow turns => ?_⟩
      exact (ClockLost.drive hnow m turns).2.1
  · intro x hx
    rw [s.advanceBy_of_isNaN m hx]
    exact ⟨rfl, Binary64.isFinite_notANumber⟩

/-- A negative time, and a time that is not a number. -/
theorem advanceBy_refused_negative :
    let s : Scheduler Float := start 500 60 0.25
    let m := Machine.new .reference (some 0)
    (m.Bounded ∧ m.Recorded) ∧
      (s.advanceBy m (.int (-1))).error? = some .negative ∧
      (s.advanceBy m (.int (-1))).machine = m ∧ (s.advanceBy m (.int (-1))).calls = [] ∧
      (0 / 0 : Float).isNaN = true ∧
      (s.advanceBy m (.float (0 / 0))).error? = some (.floor .nan) ∧
      (s.advanceBy m (.float (0 / 0))).scheduler.now.isFinite = false := by
  intro s m
  have hm : m.Bounded ∧ m.Recorded := ⟨Machine.bounded_new _ _, Machine.recorded_of_start rfl rfl⟩
  have hnegative : (s.advanceBy m (.int (-1))).error? = some .negative := rfl
  have hnan : (0 / 0 : Float).isNaN = true := rfl
  obtain ⟨hrefused, hlost⟩ := advanceBy_refused Machine.reliable s hm
  obtain ⟨hmachine, hcalls, -⟩ := hrefused (.int (-1)) .negative hnegative
  exact ⟨hm, hnegative, hmachine, hcalls, hnan, hlost _ hnan⟩

/-- **A failure that lasts.**  The usual scheduler refuses to advance by a time that is not a
number.  The tenth of a second that comes next it refuses as well, which it would not have done
otherwise. -/
theorem advanceBy_nan_lasts :
    let s : Scheduler Float := start 500 60 0.25
    let m := Machine.new .reference (some 0)
    let a := s.advanceBy m (.float (0 / 0))
    ofNumbers (.int 500) (.int 60) (.float 0.25) = .ok s ∧
      a.error? = some (.floor .nan) ∧ s.now.isNaN = false ∧ a.scheduler.now.isNaN = true ∧
      (a.scheduler.advanceBy m (.float 0.1)).error? = some (.floor .nan) ∧
      (s.advanceBy m (.float 0.1)).error? = none := by
  have htargets : (start 500 60 0.25 : Scheduler Float).targets 0.1 = .ok (50, 6) := rfl
  have hlost : ({ start 500 60 0.25 with now := Binary64.notANumber } : Scheduler Float).targets
      0.1 = .error (.floor .nan) := rfl
  have hzero : (0 : Float).isNaN = false := rfl
  intro s m a
  have hm : m.Bounded ∧ m.Recorded := ⟨Machine.bounded_new _ _, Machine.recorded_of_start rfl rfl⟩
  have ha : a = .refused { s with now := Binary64.notANumber } m (.floor .nan) :=
    s.advanceBy_of_isNaN m rfl
  have htenth : ∀ k : Scheduler Float, k.advanceBy m (.float 0.1) = k.advance m 0.1 := fun _ => rfl
  rw [ha, Advance.refused_scheduler, htenth, htenth, advance_of_refused m hlost,
    advance_eq Machine.reliable hm htargets]
  exact ⟨rfl, rfl, hzero, Binary64.isNaN_notANumber, rfl, rfl⟩

end Scheduler
end Chip8
