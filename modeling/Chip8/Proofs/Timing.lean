/-
# Timing in exact arithmetic

A clock that computes in fractions keeps time exactly.  Slot `k` of a clock with
`hz` events a second counts as due once the time is `(k - ε) / hz`, where `ε` is
a billionth (`Slot.dueAt`).  Whatever the steps in which the time went by, what a
scheduler has issued by then is what has fallen due by then (`OnTime.drive`,
`OnTime.mem_iff_dueAt`): no error adds up.

Within one advance the loop compares only the next tick with the next cycle slot.
That its comparisons amount to an order on all slots, and that the plan is sorted
by it, is `pairwise_plan`; the relation is `Slot.Precedes`.
-/

import Mathlib.Data.Rat.Floor
import Mathlib.Tactic.FieldSimp
import Mathlib.Tactic.Linarith
import Chip8.Proofs.Schedule

namespace Chip8

/-- The slack of the exact clock. -/
def billionth : ℚ := 1 / 1000000000

theorem billionth_pos : 0 < billionth := by
  norm_num [billionth]

theorem billionth_lt_one : billionth < 1 := by
  norm_num [billionth]

/-- What has been issued after more time exceeds what had been issued before by no more than the
additional time is worth, rounded up. -/
theorem floor_add_le_floor_add_ceil (x y : ℚ) : ⌊x + y⌋ ≤ ⌊x⌋ + ⌈y⌉ := by
  have hx : x < ⌊x⌋ + 1 := Int.lt_floor_add_one x
  have hy : y ≤ ⌈y⌉ := Int.le_ceil y
  have h : x + y < ((⌊x⌋ + ⌈y⌉ + 1 : ℤ) : ℚ) := by
    push_cast
    linarith
  have hlt : ⌊x + y⌋ < ⌊x⌋ + ⌈y⌉ + 1 := Int.floor_lt.2 h
  omega

/-- In a list that a relation sorts strictly, one member stands before another exactly if the
relation says so. -/
theorem pair_sublist_iff {β : Type} {R : β → β → Prop} (hR : ∀ a b, R a b → ¬R b a) {l : List β}
    (hl : l.Pairwise R) {a b : β} (ha : a ∈ l) (hb : b ∈ l) : [a, b].Sublist l ↔ R a b := by
  constructor
  · exact fun h => List.pairwise_iff_forall_sublist.1 hl h
  · intro hab
    obtain ⟨before, rest, rfl⟩ := List.append_of_mem ha
    rcases List.mem_append.1 hb with hb | hb
    · -- `b` cannot stand before `a`, for then it would precede it.
      have hba : R b a := (List.pairwise_append.1 hl).2.2 b hb a List.mem_cons_self
      exact absurd hba (hR a b hab)
    · rcases List.mem_cons.1 hb with rfl | hb
      · exact absurd hab (hR b b hab)
      · have hrest : [a, b].Sublist (a :: rest) :=
          List.Sublist.cons_cons a (List.singleton_sublist.2 hb)
        exact hrest.trans (List.sublist_append_right before (a :: rest))

namespace Slot

variable {cpuHz timerHz : ℚ}

/-- The time at which a slot begins to count as due. -/
def dueAt (cpuHz timerHz : ℚ) : Slot → ℚ
  | .tick j => (j - billionth) / timerHz
  | .cycle k => (k - billionth) / cpuHz

/-- The order in which slots are issued together: by their instants, but a tick goes ahead of the
cycle slots of the last billionth of a second. -/
def Precedes (cpuHz timerHz : ℚ) : Slot → Slot → Prop
  | .tick i, .tick j => i < j
  | .cycle k, .cycle l => k < l
  | .cycle k, .tick j => k / cpuHz + billionth < j / timerHz
  | .tick j, .cycle k => j / timerHz ≤ k / cpuHz + billionth

/-- Of two slots no more than one precedes the other. -/
theorem Precedes.asymm {a b : Slot} (h : a.Precedes cpuHz timerHz b) :
    ¬b.Precedes cpuHz timerHz a := by
  cases a <;> cases b <;> simp only [Precedes, not_lt, not_le] at h ⊢
  · omega
  · exact h
  · exact h
  · omega

end Slot

namespace Scheduler

variable {s : Scheduler ℚ} {cycleTarget tickTarget : Nat}

/-! ### The order of the slots -/

/-- If both are due, the tick is next just if its instant is not later than that of the cycle slot
by more than a billionth. -/
theorem tickNext_iff (hcycle : s.cyclesIssued < cycleTarget) (htick : s.ticksIssued < tickTarget) :
    s.tickNext cycleTarget tickTarget = true ↔
      ((s.ticksIssued + 1 : ℕ) : ℚ) / s.timerHz ≤
        ((s.cyclesIssued + 1 : ℕ) : ℚ) / s.cpuHz + billionth := by
  rw [tickNext, decide_eq_true htick, decide_eq_true hcycle]
  exact decide_eq_true_iff

/-- The ticks of a plan are those that are due and have not been issued. -/
theorem mem_plan_tick {j : Nat} :
    .tick j ∈ s.plan cycleTarget tickTarget ↔ s.ticksIssued < j ∧ j ≤ tickTarget := by
  rw [← Slot.mem_filterMap_tick?, filterMap_tick?_plan, List.mem_range'_1]
  omega

/-- So are its cycle slots. -/
theorem mem_plan_cycle {k : Nat} :
    .cycle k ∈ s.plan cycleTarget tickTarget ↔ s.cyclesIssued < k ∧ k ≤ cycleTarget := by
  rw [← Slot.mem_filterMap_cycle?, filterMap_cycle?_plan, List.mem_range'_1]
  omega

/-- The instants of a clock come in the order of their numbers. -/
theorem div_le_div_of_lt {hz : ℚ} (hhz : 0 < hz) {n k : Nat} (h : n < k) :
    ((n + 1 : ℕ) : ℚ) / hz ≤ (k : ℚ) / hz :=
  div_le_div_of_nonneg_right (Nat.cast_le.2 h) hhz.le

/-- **A plan is sorted.**  The loop compares the next tick with the next cycle slot; what it issues
stands in the right order to all that comes after, since later slots have later instants. -/
theorem pairwise_plan (hcpu : 0 < s.cpuHz) (htimer : 0 < s.timerHz) :
    (s.plan cycleTarget tickTarget).Pairwise (Slot.Precedes s.cpuHz s.timerHz) := by
  fun_induction plan s cycleTarget tickTarget with
  | case1 s due tick ih =>
    have htick := s.lt_of_tickNext tick
    refine List.pairwise_cons.2 ⟨fun slot hslot => ?_, ih hcpu htimer⟩
    cases slot with
    | tick j => exact (mem_plan_tick.1 hslot).1
    | cycle k =>
      obtain ⟨hk, hle⟩ := mem_plan_cycle.1 hslot
      have hcycle : s.cyclesIssued < cycleTarget := Nat.lt_of_lt_of_le hk hle
      have hfirst := (tickNext_iff hcycle htick).1 tick
      have hlater : ((s.cyclesIssued + 1 : ℕ) : ℚ) / s.cpuHz ≤ (k : ℚ) / s.cpuHz :=
        div_le_div_of_lt hcpu hk
      exact hfirst.trans (by linarith)
  | case2 s due tick ih =>
    have hcycle := s.lt_of_not_tickNext due tick
    refine List.pairwise_cons.2 ⟨fun slot hslot => ?_, ih hcpu htimer⟩
    cases slot with
    | tick j =>
      obtain ⟨hj, hle⟩ := mem_plan_tick.1 hslot
      have htick : s.ticksIssued < tickTarget := Nat.lt_of_lt_of_le hj hle
      rw [tickNext_iff hcycle htick, not_le] at tick
      have hlater : ((s.ticksIssued + 1 : ℕ) : ℚ) / s.timerHz ≤ (j : ℚ) / s.timerHz :=
        div_le_div_of_lt htimer hj
      exact tick.trans_le hlater
    | cycle k => exact (mem_plan_cycle.1 hslot).1
  | case3 s due => exact List.Pairwise.nil

/-- The slots of an advance come in the order of their instants. -/
theorem pairwise_slots (hcpu : 0 < s.cpuHz) (htimer : 0 < s.timerHz) (elapsed : ℚ) :
    (s.slots elapsed).Pairwise (Slot.Precedes s.cpuHz s.timerHz) := by
  cases h : s.targets elapsed with
  | error e =>
    rw [slots_of_refused h]
    exact List.Pairwise.nil
  | ok targets =>
    rw [slots_of_targets h]
    exact pairwise_plan hcpu htimer

/-! ### What has fallen due by a time -/

variable {cpuHz timerHz maxCatchUp time : ℚ}

/-- A scheduler that is on time: its rates and its cap are as given, and positive, its clock shows
the given time, and its counters are what the clock says. -/
structure OnTime (cpuHz timerHz maxCatchUp time : ℚ) (s : Scheduler ℚ) : Prop where
  cpu_pos : 0 < cpuHz
  timer_pos : 0 < timerHz
  cap_pos : 0 < maxCatchUp
  cpuHz_eq : s.cpuHz = cpuHz
  timerHz_eq : s.timerHz = timerHz
  maxCatchUp_eq : s.maxCatchUp = maxCatchUp
  now_eq : s.now = time
  cycles : (s.cyclesIssued : ℤ) = ⌊time * cpuHz + billionth⌋
  ticks : (s.ticksIssued : ℤ) = ⌊time * timerHz + billionth⌋

/-- At time zero a scheduler is on time. -/
theorem onTime_start (hcpu : 0 < cpuHz) (htimer : 0 < timerHz) (hcap : 0 < maxCatchUp) :
    OnTime cpuHz timerHz maxCatchUp 0 (start cpuHz timerHz maxCatchUp) := by
  have hfloor : ∀ hz : ℚ, ⌊0 * hz + billionth⌋ = 0 := fun hz => by
    rw [zero_mul, zero_add, Int.floor_eq_zero_iff]
    exact ⟨billionth_pos.le, billionth_lt_one⟩
  exact ⟨hcpu, htimer, hcap, rfl, rfl, rfl, rfl, (hfloor cpuHz).symm, (hfloor timerHz).symm⟩

/-- The clock of a scheduler that is on time is moved on by what counts of the time. -/
theorem OnTime.now_moved (h : OnTime cpuHz timerHz maxCatchUp time s) (elapsed : ℚ) :
    (s.moved elapsed).now = time + min elapsed maxCatchUp := by
  have hsmaller : ClockArithmetic.smaller elapsed maxCatchUp = min elapsed maxCatchUp := by
    rw [ClockArithmetic.smaller,
      show ClockArithmetic.less maxCatchUp elapsed = decide (maxCatchUp < elapsed) from rfl]
    by_cases hlt : maxCatchUp < elapsed
    · rw [decide_eq_true hlt, if_pos rfl, min_eq_right hlt.le]
    · rw [decide_eq_false hlt, if_neg Bool.false_ne_true, min_eq_left (not_lt.1 hlt)]
  rw [moved, h.maxCatchUp_eq, hsmaller, h.now_eq]
  rfl

/-- An exact clock can always tell how much is due. -/
theorem OnTime.targets_eq (h : OnTime cpuHz timerHz maxCatchUp time s) {elapsed : ℚ}
    (he : 0 ≤ elapsed) :
    s.targets elapsed = .ok (⌊(time + min elapsed maxCatchUp) * cpuHz + billionth⌋,
      ⌊(time + min elapsed maxCatchUp) * timerHz + billionth⌋) := by
  have hless : ¬ClockArithmetic.less elapsed ClockArithmetic.zero = true := by
    rw [show ClockArithmetic.less elapsed ClockArithmetic.zero = decide (elapsed < 0) from rfl,
      decide_eq_true_iff, not_lt]
    exact he
  rw [targets, if_neg hless, h.now_moved, h.cpuHz_eq, h.timerHz_eq]
  rfl

/-- What was due earlier is due later. -/
theorem floor_le_floor_of_le {later hz : ℚ} (hhz : 0 < hz) (h : time ≤ later) :
    ⌊time * hz + billionth⌋ ≤ ⌊later * hz + billionth⌋ := by
  have hmul : time * hz ≤ later * hz := mul_le_mul_of_nonneg_right h hhz.le
  exact Int.floor_le_floor (by linarith)

variable {μ : Type} [Driven μ] {P : μ → Prop} {m : μ}

/-- **A scheduler that is on time stays on time**, by exactly the time that counted. -/
theorem OnTime.advance (hP : Driven.Reliable P) (hm : P m)
    (h : OnTime cpuHz timerHz maxCatchUp time s) {elapsed : ℚ} (he : 0 ≤ elapsed) :
    OnTime cpuHz timerHz maxCatchUp (time + min elapsed maxCatchUp)
      (s.advance m elapsed).scheduler := by
  have htargets := h.targets_eq he
  have hlater : time ≤ time + min elapsed maxCatchUp := by
    have hmin : 0 ≤ min elapsed maxCatchUp := le_min he h.cap_pos.le
    linarith
  rw [advance_eq hP hm htargets]
  refine ⟨h.cpu_pos, h.timer_pos, h.cap_pos, h.cpuHz_eq, h.timerHz_eq, h.maxCatchUp_eq, ?_, ?_, ?_⟩
  · exact h.now_moved elapsed
  · have hmono := floor_le_floor_of_le h.cpu_pos hlater
    have hcycles := h.cycles
    simp only [caughtUp, moved]
    omega
  · have hmono := floor_le_floor_of_le h.timer_pos hlater
    have hticks := h.ticks
    simp only [caughtUp, moved]
    omega

/-- **No error adds up**, however the time was split into turns. -/
theorem OnTime.drive (hP : Driven.Reliable P) (hm : P m)
    (h : OnTime cpuHz timerHz maxCatchUp time s) {turns : List (Turn ℚ μ)}
    (hturns : ∀ turn ∈ turns, 0 ≤ turn.elapsed ∧ ∀ m, P m → P (turn.handle m)) :
    OnTime cpuHz timerHz maxCatchUp
      (time + (turns.map fun turn => min turn.elapsed maxCatchUp).sum)
      (s.drive m turns).scheduler := by
  induction turns generalizing s m time with
  | nil =>
    rw [List.map_nil, List.sum_nil, add_zero]
    exact h
  | cons turn turns ih =>
    obtain ⟨⟨he, hhandle⟩, hturns⟩ := List.forall_mem_cons.1 hturns
    have hstep := h.advance hP (hhandle m hm) he
    have hleft : P (s.advance (turn.handle m) turn.elapsed).machine :=
      machine_advance_of_reliable hP s (hhandle m hm) turn.elapsed
    have hrest := ih hleft hstep hturns
    rw [List.map_cons, List.sum_cons, ← add_assoc]
    exact hrest

/-- A number lies between two counters that are on time exactly if its slot falls due between the
times. -/
theorem lt_and_le_iff_dueAt {hz later : ℚ} (hhz : 0 < hz) {count count' n : ℕ}
    (h : (count : ℤ) = ⌊time * hz + billionth⌋) (h' : (count' : ℤ) = ⌊later * hz + billionth⌋) :
    count < n ∧ n ≤ count' ↔
      time < ((n : ℚ) - billionth) / hz ∧ ((n : ℚ) - billionth) / hz ≤ later := by
  have hbefore : (count : ℤ) < n ↔ time < ((n : ℚ) - billionth) / hz := by
    rw [h, Int.floor_lt, lt_div_iff₀ hhz, lt_sub_iff_add_lt, Int.cast_natCast]
  have hafter : (n : ℤ) ≤ count' ↔ ((n : ℚ) - billionth) / hz ≤ later := by
    rw [h', Int.le_floor, div_le_iff₀ hhz, sub_le_iff_le_add, Int.cast_natCast]
  rw [← hbefore, ← hafter]
  omega

/-- **What is issued between two times is what falls due between them.** -/
theorem OnTime.mem_iff_dueAt {later : ℚ} {k : Scheduler ℚ}
    (h : OnTime cpuHz timerHz maxCatchUp time s) (h' : OnTime cpuHz timerHz maxCatchUp later k)
    {slots : List Slot} (hslots : s.Issues slots k) {slot : Slot} :
    slot ∈ slots ↔ time < slot.dueAt cpuHz timerHz ∧ slot.dueAt cpuHz timerHz ≤ later := by
  cases slot with
  | tick j => rw [hslots.mem_tick, lt_and_le_iff_dueAt h.timer_pos h.ticks h'.ticks, Slot.dueAt]
  | cycle j => rw [hslots.mem_cycle, lt_and_le_iff_dueAt h.cpu_pos h.cycles h'.cycles, Slot.dueAt]

/-- The slots of an advance come in order. -/
theorem OnTime.pairwise_slots (h : OnTime cpuHz timerHz maxCatchUp time s) (elapsed : ℚ) :
    (s.slots elapsed).Pairwise (Slot.Precedes cpuHz timerHz) := by
  have hcpu : 0 < s.cpuHz := h.cpuHz_eq ▸ h.cpu_pos
  have htimer : 0 < s.timerHz := h.timerHz_eq ▸ h.timer_pos
  have hsorted := Scheduler.pairwise_slots hcpu htimer elapsed
  rwa [h.cpuHz_eq, h.timerHz_eq] at hsorted

/-- The floors of two times that are no further apart than the cap. -/
theorem floor_le_floor_add_ceil {hz : ℚ} (hhz : 0 < hz) (elapsed : ℚ) :
    ⌊(time + min elapsed maxCatchUp) * hz + billionth⌋ ≤
      ⌊time * hz + billionth⌋ + ⌈maxCatchUp * hz⌉ := by
  have hsplit : (time + min elapsed maxCatchUp) * hz + billionth =
      (time * hz + billionth) + min elapsed maxCatchUp * hz := by ring
  have hmul : min elapsed maxCatchUp * hz ≤ maxCatchUp * hz :=
    mul_le_mul_of_nonneg_right (min_le_right _ _) hhz.le
  have hceil : ⌈min elapsed maxCatchUp * hz⌉ ≤ ⌈maxCatchUp * hz⌉ := Int.ceil_le_ceil hmul
  have hfloor := floor_add_le_floor_add_ceil (time * hz + billionth)
    (min elapsed maxCatchUp * hz)
  rw [hsplit]
  omega

/-- **The timing of a scheduler with an exact clock.**  After any row of turns since it started, it
has issued as many cycle slots and ticks as the time that counted is worth at their rates, and a
billionth more.  The next advance, however much time it is given, issues no more than the cap is
worth, rounded up; and of a cycle slot and a tick that it issues, the slot comes first exactly if
its instant is earlier by more than a billionth of a second. -/
theorem drive_start_timing (hP : Driven.Reliable P) (hcpu : 0 < cpuHz) (htimer : 0 < timerHz)
    (hcap : 0 < maxCatchUp) (hm : P m) {turns : List (Turn ℚ μ)}
    (hturns : ∀ turn ∈ turns, 0 ≤ turn.elapsed ∧ ∀ m, P m → P (turn.handle m)) :
    let k := ((start cpuHz timerHz maxCatchUp).drive m turns).scheduler
    let time := (turns.map fun turn => min turn.elapsed maxCatchUp).sum
    (k.cyclesIssued : ℤ) = ⌊time * cpuHz + billionth⌋ ∧
      (k.ticksIssued : ℤ) = ⌊time * timerHz + billionth⌋ ∧
      ∀ (m : μ) (elapsed : ℚ), P m → 0 ≤ elapsed →
        let a := k.advance m elapsed
        let slots := k.slots elapsed
        a.error? = none ∧ a.calls = Driven.calls m slots ∧ k.Issues slots a.scheduler ∧
          (a.scheduler.cyclesIssued : ℤ) ≤ k.cyclesIssued + ⌈maxCatchUp * cpuHz⌉ ∧
          (a.scheduler.ticksIssued : ℤ) ≤ k.ticksIssued + ⌈maxCatchUp * timerHz⌉ ∧
          ∀ i j : ℕ, .cycle i ∈ slots → .tick j ∈ slots →
            ([.cycle i, .tick j].Sublist slots ↔ (i : ℚ) / cpuHz + billionth < j / timerHz) := by
  intro k time
  have hk : OnTime cpuHz timerHz maxCatchUp time k := by
    have h := (onTime_start hcpu htimer hcap).drive hP hm hturns
    rwa [zero_add] at h
  refine ⟨hk.cycles, hk.ticks, fun m elapsed hm he => ?_⟩
  have hafter := hk.advance hP hm he
  refine ⟨by rw [advance_eq hP hm (hk.targets_eq he)], calls_advance hP hm, issues_advance hP hm,
    ?_, ?_, fun i j hi hj => ?_⟩
  · rw [hafter.cycles, hk.cycles]
    exact floor_le_floor_add_ceil hcpu elapsed
  · rw [hafter.ticks, hk.ticks]
    exact floor_le_floor_add_ceil htimer elapsed
  · exact pair_sublist_iff (fun _ _ => Slot.Precedes.asymm) (hk.pairwise_slots elapsed) hi hj

/-- A tenth of a second, and then ten seconds of which a quarter counts: what is issued is worth
thirty-five hundredths of a second. -/
theorem drive_start_timing_capped :
    let m := Machine.new .full (some 3)
    let turns : List (Turn ℚ Machine) := [⟨Machine.reset, 1 / 10⟩, ⟨Machine.tick, 10⟩]
    (m.Bounded ∧ m.Recorded) ∧
      (∀ turn ∈ turns, 0 ≤ turn.elapsed ∧
        ∀ m, Machine.Bounded m ∧ m.Recorded → (turn.handle m).Bounded ∧ (turn.handle m).Recorded) ∧
      (((start 500 60 (1 / 4)).drive m turns).scheduler.cyclesIssued : ℤ) = 175 ∧
      (((start 500 60 (1 / 4)).drive m turns).scheduler.ticksIssued : ℤ) = 21 ∧
      (((start 500 60 (1 / 4)).drive m turns).scheduler.advance m 10).error? = none := by
  intro m turns
  have hm : m.Bounded ∧ m.Recorded := ⟨Machine.bounded_new _ _, Machine.recorded_of_start rfl rfl⟩
  have hturns : ∀ turn ∈ turns, 0 ≤ turn.elapsed ∧ ∀ m, Machine.Bounded m ∧ m.Recorded →
      (turn.handle m).Bounded ∧ (turn.handle m).Recorded := by
    intro turn hturn
    rcases List.mem_cons.1 hturn with rfl | hturn
    · refine ⟨by norm_num, fun m _ => ?_⟩
      exact ⟨Machine.bounded_reset m, Machine.recorded_of_start rfl rfl⟩
    · rw [List.mem_singleton.1 hturn]
      exact ⟨by norm_num, Machine.reliable.tick⟩
  have htime : (turns.map fun turn => min turn.elapsed (1 / 4)).sum = 7 / 20 := by
    norm_num [turns, min_def]
  have hcycles : ⌊(turns.map fun turn => min turn.elapsed (1 / 4)).sum * 500 + billionth⌋ = 175 := by
    rw [htime, Int.floor_eq_iff]
    norm_num [billionth]
  have hticks : ⌊(turns.map fun turn => min turn.elapsed (1 / 4)).sum * 60 + billionth⌋ = 21 := by
    rw [htime, Int.floor_eq_iff]
    norm_num [billionth]
  obtain ⟨hk, hk', hnext⟩ := drive_start_timing Machine.reliable (by norm_num : (0 : ℚ) < 500)
    (by norm_num : (0 : ℚ) < 60) (by norm_num : (0 : ℚ) < 1 / 4) hm hturns
  obtain ⟨hend, -⟩ := hnext m 10 hm (by norm_num)
  exact ⟨hm, hturns, hk.trans hcycles, hk'.trans hticks, hend⟩

end Scheduler
end Chip8
