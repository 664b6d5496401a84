/-
# What a scheduler issues, and that it issues all of it once

The loop of a scheduler does two things at once: it settles in which order ticks
and cycle slots follow one another, and it makes the calls on the machine.  The
order does not depend on the machine, so the two come apart.  `plan` is the row
of slots, each with its number; `Driven.meet` is what a machine makes of one of
them.  `issue_eq` says that the loop carries out its plan, and `advance_eq` that
an advance does so too, once it knows how much is due (`targets`).  What an advance
tells of it, the numbers of its cycles and of its ticks, it counts as it goes; these
are the numbers of its calls, whatever the machine does (`advance_counted`).

All that is said here holds whatever the numbers of the clock do, floating point
or not: an instance of `ClockArithmetic` may compare as it likes.  The plan
issues the ticks that are due in the order of their numbers, each of them once,
and likewise the cycle slots (`filterMap_tick?_plan`, `filterMap_cycle?_plan`).
An advance that is refused issues nothing, so over any row of advances the
numbers run on without a gap (`advance_accounts`).
-/

import Chip8.Scheduler
import Chip8.Proofs.Records

namespace Chip8

/-- Something that falls due: a tick or a cycle slot, with its number since the clocks started. -/
inductive Slot where
  | tick (number : Nat)
  | cycle (number : Nat)
  deriving DecidableEq, Repr

namespace Slot

/-- The number of a tick. -/
def tick? : Slot → Option Nat
  | .tick j => some j
  | .cycle _ => none

/-- The number of a cycle slot. -/
def cycle? : Slot → Option Nat
  | .tick _ => none
  | .cycle k => some k

theorem tick?_tick (j : Nat) : tick? (.tick j) = some j := rfl

theorem tick?_cycle (k : Nat) : tick? (.cycle k) = none := rfl

theorem cycle?_tick (j : Nat) : cycle? (.tick j) = none := rfl

theorem cycle?_cycle (k : Nat) : cycle? (.cycle k) = some k := rfl

/-- A number is among those of the ticks of a row if the tick with it is in the row. -/
theorem mem_filterMap_tick? {j : Nat} {slots : List Slot} :
    j ∈ slots.filterMap tick? ↔ .tick j ∈ slots := by
  rw [List.mem_filterMap]
  constructor
  · rintro ⟨slot, hslot, h⟩
    cases slot with
    | tick i => exact Option.some.inj h ▸ hslot
    | cycle k => cases h
  · exact fun h => ⟨_, h, rfl⟩

/-- A number is among those of the cycle slots of a row if the slot with it is in the row. -/
theorem mem_filterMap_cycle? {k : Nat} {slots : List Slot} :
    k ∈ slots.filterMap cycle? ↔ .cycle k ∈ slots := by
  rw [List.mem_filterMap]
  constructor
  · rintro ⟨slot, hslot, h⟩
    cases slot with
    | tick j => cases h
    | cycle l => exact Option.some.inj h ▸ hslot
  · exact fun h => ⟨_, h, rfl⟩

end Slot

/-- The fault that a call was answered with. -/
def Call.fault? : Call → Option Fault
  | .cycle (.ok s) => s.fault
  | _ => none

namespace Advance

variable {α μ : Type} {a : Advance α μ}

/-- Whether a cycle broke off. -/
def brokeOff (a : Advance α μ) : Bool :=
  match a.error? with
  | some (.cycle _) => true
  | _ => false

/-- The counters of an advance agree with its calls: all ticks are counted, and all cycles but one
that broke off. -/
structure Counted (a : Advance α μ) : Prop where
  cycles : a.calls.countP Call.isCycle = a.cycles + a.brokeOff.toNat
  ticks : a.calls.countP (!·.isCycle) = a.ticks

/-- An advance that is refused has made no call and counted none. -/
theorem counted_refused (s : Scheduler α) (m : μ) {e : AdvanceError} (he : ∀ e', e ≠ .cycle e') :
    (refused s m e).Counted := by
  constructor
  · cases e with
    | cycle e => exact absurd rfl (he e)
    | negative | floor | tooLarge => rfl
  · rfl

/-- An advance that comes to its end has counted all its cycles. -/
theorem Counted.cycles_of_none (h : a.Counted) (hnone : a.error? = none) :
    a.calls.countP Call.isCycle = a.cycles := by
  rw [h.cycles, brokeOff, hnone]
  rfl

end Advance

/-- A turn of a host: it does something with its machine, and then lets time go by. -/
structure Turn (α μ : Type) where
  handle : μ → μ
  elapsed : α

/-- What has become of a row of turns. -/
structure Drive (α μ : Type) where
  scheduler : Scheduler α
  machine : μ
  /-- The slots that were issued, in order. -/
  slots : List Slot
  /-- The scheduler's calls on the machine, in order. -/
  calls : List Call

/-! ### What a machine makes of a row of slots -/

namespace Driven

variable {μ : Type} [Driven μ]

/-- A kind of machine that the calls of a scheduler do not lead out of, and whose cycles are all
answered. -/
structure Reliable (P : μ → Prop) : Prop where
  tick : ∀ m, P m → P (Driven.tick m)
  cycle : ∀ m, P m → P (Driven.cycle m).1
  answered : ∀ m, P m → ∃ s, (Driven.cycle m).2 = .ok s

/-- What comes of a slot: the machine that is left, and the call that was made on it.  A cycle slot
at which the machine is halted passes without a call. -/
def meet (m : μ) : Slot → μ × Option Call
  | .tick _ => (tick m, some .tick)
  | .cycle _ => if isHalted m then (m, none) else ((cycle m).1, some (.cycle (cycle m).2))

/-- The machine after a row of slots. -/
def after (m : μ) (slots : List Slot) : μ := slots.foldl (fun m slot => (meet m slot).1) m

/-- What comes of each slot of a row: a call, or none at a cycle slot at which the machine is
halted. -/
def outcomes (m : μ) : List Slot → List (Option Call)
  | [] => []
  | slot :: slots => (meet m slot).2 :: outcomes (meet m slot).1 slots

/-- The calls on a machine that meets a row of slots. -/
def calls (m : μ) (slots : List Slot) : List Call := (outcomes m slots).filterMap id

/-- The number of cycle slots of a row that are reached while the machine is halted. -/
def idle (m : μ) (slots : List Slot) : Nat := (outcomes m slots).countP (·.isNone)

@[simp] theorem after_cons (m : μ) (slot : Slot) (slots : List Slot) :
    after m (slot :: slots) = after (meet m slot).1 slots := rfl

/-- At a cycle slot a halted machine is left alone. -/
theorem meet_of_halted {m : μ} (h : isHalted m = true) (k : Nat) : meet m (.cycle k) = (m, none) :=
  if_pos h

/-- At a cycle slot a machine that is not halted runs a cycle. -/
theorem meet_of_running {m : μ} (h : ¬isHalted m = true) (k : Nat) :
    meet m (.cycle k) = ((cycle m).1, some (.cycle (cycle m).2)) := if_neg h

/-- A tick is always called. -/
theorem calls_tick (m : μ) (j : Nat) (slots : List Slot) :
    calls m (.tick j :: slots) = .tick :: calls (tick m) slots := rfl

/-- A cycle slot that finds the machine halted adds no call. -/
theorem calls_of_halted {m : μ} (h : isHalted m = true) (k : Nat) (slots : List Slot) :
    calls m (.cycle k :: slots) = calls m slots := by
  rw [calls, outcomes, meet_of_halted h]
  rfl

/-- A cycle slot that finds the machine running adds the call of its cycle. -/
theorem calls_of_running {m : μ} (h : ¬isHalted m = true) (k : Nat) (slots : List Slot) :
    calls m (.cycle k :: slots) = .cycle (cycle m).2 :: calls (cycle m).1 slots := by
  rw [calls, outcomes, meet_of_running h]
  rfl

/-- The second part of a row meets the machine that the first part has left. -/
theorem outcomes_append (m : μ) (slots more : List Slot) :
    outcomes m (slots ++ more) = outcomes m slots ++ outcomes (after m slots) more := by
  induction slots generalizing m with
  | nil => rfl
  | cons slot slots ih => exact congrArg _ (ih (meet m slot).1)

/-- The calls of a row in two parts are those of the one and then those of the other. -/
theorem calls_append (m : μ) (slots more : List Slot) :
    calls m (slots ++ more) = calls m slots ++ calls (after m slots) more := by
  rw [calls, outcomes_append, List.filterMap_append]
  rfl

/-- No slot leads a machine out of a reliable kind. -/
theorem Reliable.meet {P : μ → Prop} (hP : Reliable P) {m : μ} (hm : P m) (slot : Slot) :
    P (Driven.meet m slot).1 := by
  cases slot with
  | tick j => exact hP.tick m hm
  | cycle k =>
    by_cases hh : isHalted m = true
    · rw [meet_of_halted hh]
      exact hm
    · rw [meet_of_running hh]
      exact hP.cycle m hm

/-- No row of slots leads a machine out of a reliable kind. -/
theorem Reliable.after {P : μ → Prop} (hP : Reliable P) {m : μ} (hm : P m) (slots : List Slot) :
    P (Driven.after m slots) := by
  induction slots generalizing m with
  | nil => exact hm
  | cons slot slots ih => exact ih (hP.meet hm slot)

/-- Every tick of a row is carried out. -/
theorem countP_tick_calls (m : μ) (slots : List Slot) :
    (calls m slots).countP (!·.isCycle) = (slots.filterMap Slot.tick?).length := by
  induction slots generalizing m with
  | nil => rfl
  | cons slot slots ih =>
    cases slot with
    | tick j =>
      rw [calls_tick, List.countP_cons_of_pos rfl, ih,
        List.filterMap_cons_some (Slot.tick?_tick j), List.length_cons]
    | cycle k =>
      rw [List.filterMap_cons_none (Slot.tick?_cycle k)]
      by_cases hh : isHalted m = true
      · rw [calls_of_halted hh, ih]
      · rw [calls_of_running hh, List.countP_cons_of_neg Bool.false_ne_true, ih]

/-- Every cycle slot of a row is either carried out or reached while the machine is halted. -/
theorem countP_cycle_calls (m : μ) (slots : List Slot) :
    (calls m slots).countP Call.isCycle + idle m slots = (slots.filterMap Slot.cycle?).length := by
  induction slots generalizing m with
  | nil => rfl
  | cons slot slots ih =>
    cases slot with
    | tick j =>
      have hidle : idle m (.tick j :: slots) = idle (tick m) slots :=
        List.countP_cons_of_neg Bool.false_ne_true
      rw [calls_tick, List.countP_cons_of_neg Bool.false_ne_true, hidle,
        List.filterMap_cons_none (Slot.cycle?_tick j), ih]
    | cycle k =>
      rw [List.filterMap_cons_some (Slot.cycle?_cycle k), List.length_cons]
      by_cases hh : isHalted m = true
      · have hidle : idle m (.cycle k :: slots) = idle m slots + 1 := by
          rw [idle, outcomes, meet_of_halted hh]
          exact List.countP_cons_of_pos rfl
        rw [calls_of_halted hh, hidle, ← ih m]
        omega
      · have hidle : idle m (.cycle k :: slots) = idle (cycle m).1 slots := by
          rw [idle, outcomes, meet_of_running hh]
          exact List.countP_cons_of_neg Bool.false_ne_true
        rw [calls_of_running hh, List.countP_cons_of_pos rfl, hidle, ← ih (cycle m).1]
        omega

end Driven

/-- The cycles of a machine within its bounds whose records agree are all answered. -/
theorem Machine.reliable : Driven.Reliable fun m : Machine => m.Bounded ∧ m.Recorded where
  tick _ h := ⟨h.1.serve .tick, h.2.serve h.1 .tick⟩
  cycle _ h := ⟨h.1.cycle, h.2.cycle h.1⟩
  answered _ h := by
    obtain ⟨s, hs⟩ := h.1.exists_accounts h.2
    exact ⟨s, hs.answered⟩

namespace Scheduler

variable {α μ : Type} {s : Scheduler α} {cycleTarget tickTarget : Nat}

/-- The scheduler after its loop: the counters have reached their targets, unless they were past
them, and the last fault is that of the last call that ran into one. -/
def caughtUp (s : Scheduler α) (cycleTarget tickTarget : Nat) (calls : List Call) : Scheduler α :=
  { s with
    cyclesIssued := max s.cyclesIssued cycleTarget
    ticksIssued := max s.ticksIssued tickTarget
    lastFault := calls.foldl (fun last call => call.fault?.or last) s.lastFault }

/-- To issue a tick that is due and then to catch up is to catch up. -/
theorem caughtUp_countTick (h : s.ticksIssued < tickTarget) (calls : List Call) :
    s.countTick.caughtUp cycleTarget tickTarget calls =
      s.caughtUp cycleTarget tickTarget (.tick :: calls) := by
  have hmax : max (s.ticksIssued + 1) tickTarget = max s.ticksIssued tickTarget := by omega
  simp only [caughtUp, countTick, hmax, List.foldl_cons, Call.fault?, Option.none_or]

/-- To pass a cycle slot that is due and then to catch up is to catch up. -/
theorem caughtUp_countSlot (h : s.cyclesIssued < cycleTarget) (calls : List Call) :
    s.countSlot.caughtUp cycleTarget tickTarget calls = s.caughtUp cycleTarget tickTarget calls := by
  have hmax : max (s.cyclesIssued + 1) cycleTarget = max s.cyclesIssued cycleTarget := by omega
  simp only [caughtUp, countSlot, hmax]

/-- To note the fault of a cycle and then those of later calls is to note them all. -/
theorem caughtUp_record (snapshot : Snapshot) (calls : List Call) :
    (s.record snapshot.fault).caughtUp cycleTarget tickTarget calls =
      s.caughtUp cycleTarget tickTarget (.cycle (.ok snapshot) :: calls) := rfl

/-- Slots that lead from the counters of one scheduler to those of another: the numbers of the
ticks go on from where the one has got to, up to where the other has, and each occurs once; and so
do the numbers of the cycle slots. -/
structure Issues (s : Scheduler α) (slots : List Slot) (k : Scheduler α) : Prop where
  ticks_le : s.ticksIssued ≤ k.ticksIssued
  cycles_le : s.cyclesIssued ≤ k.cyclesIssued
  ticks : slots.filterMap Slot.tick? =
    List.range' (s.ticksIssued + 1) (k.ticksIssued - s.ticksIssued)
  cycles : slots.filterMap Slot.cycle? =
    List.range' (s.cyclesIssued + 1) (k.cyclesIssued - s.cyclesIssued)

/-- Where no counter moves, no slot is issued. -/
theorem issues_nil {k : Scheduler α} (hticks : k.ticksIssued = s.ticksIssued)
    (hcycles : k.cyclesIssued = s.cyclesIssued) : s.Issues [] k := by
  refine ⟨Nat.le_of_eq hticks.symm, Nat.le_of_eq hcycles.symm, ?_, ?_⟩
  · rw [hticks, Nat.sub_self]
    rfl
  · rw [hcycles, Nat.sub_self]
    rfl

/-- The ticks that are issued are those with numbers between the counter before and the one after.
-/
theorem Issues.mem_tick {k : Scheduler α} {slots : List Slot} (h : s.Issues slots k) {j : Nat} :
    .tick j ∈ slots ↔ s.ticksIssued < j ∧ j ≤ k.ticksIssued := by
  have hle := h.ticks_le
  rw [← Slot.mem_filterMap_tick?, h.ticks, List.mem_range'_1]
  omega

/-- So are the cycle slots. -/
theorem Issues.mem_cycle {k : Scheduler α} {slots : List Slot} (h : s.Issues slots k) {j : Nat} :
    .cycle j ∈ slots ↔ s.cyclesIssued < j ∧ j ≤ k.cyclesIssued := by
  have hle := h.cycles_le
  rw [← Slot.mem_filterMap_cycle?, h.cycles, List.mem_range'_1]
  omega

/-- The numbers after one count up to another, and those after that up to a third. -/
theorem range'_append_range' {low middle high : Nat} (hlow : low ≤ middle) (hhigh : middle ≤ high) :
    List.range' (low + 1) (middle - low) ++ List.range' (middle + 1) (high - middle) =
      List.range' (low + 1) (high - low) := by
  have hstart : middle + 1 = low + 1 + 1 * (middle - low) := by omega
  rw [hstart, List.range'_append]
  congr 1
  omega

/-- What is issued in two goes leads from the first counters to the last. -/
theorem Issues.append {k l : Scheduler α} {slots more : List Slot} (h : s.Issues slots k)
    (h' : k.Issues more l) : s.Issues (slots ++ more) l where
  ticks_le := Nat.le_trans h.ticks_le h'.ticks_le
  cycles_le := Nat.le_trans h.cycles_le h'.cycles_le
  ticks := by
    rw [List.filterMap_append, h.ticks, h'.ticks, range'_append_range' h.ticks_le h'.ticks_le]
  cycles := by
    rw [List.filterMap_append, h.cycles, h'.cycles, range'_append_range' h.cycles_le h'.cycles_le]

variable [ClockArithmetic α]

/-! ### The plan -/

/-- The slots that are issued until both counters have reached their targets, in their order. -/
def plan (s : Scheduler α) (cycleTarget tickTarget : Nat) : List Slot :=
  if _due : s.cyclesIssued < cycleTarget ∨ s.ticksIssued < tickTarget then
    if _tick : s.tickNext cycleTarget tickTarget = true then
      .tick (s.ticksIssued + 1) :: s.countTick.plan cycleTarget tickTarget
    else .cycle (s.cyclesIssued + 1) :: s.countSlot.plan cycleTarget tickTarget
  else []
termination_by (cycleTarget - s.cyclesIssued) + (tickTarget - s.ticksIssued)
decreasing_by
  · have h := s.lt_of_tickNext _tick
    simp only [countTick]; omega
  · have h := s.lt_of_not_tickNext _due _tick
    simp only [countSlot]; omega

/-- If a tick is to be issued next, a plan begins with it. -/
theorem plan_of_tick (h : s.tickNext cycleTarget tickTarget = true) :
    s.plan cycleTarget tickTarget =
      .tick (s.ticksIssued + 1) :: s.countTick.plan cycleTarget tickTarget := by
  rw [plan, dif_pos (.inr (s.lt_of_tickNext h)), dif_pos h]

/-- If something is due and no tick is to be issued next, a plan begins with a cycle slot. -/
theorem plan_of_cycle (due : s.cyclesIssued < cycleTarget ∨ s.ticksIssued < tickTarget)
    (h : ¬s.tickNext cycleTarget tickTarget = true) :
    s.plan cycleTarget tickTarget =
      .cycle (s.cyclesIssued + 1) :: s.countSlot.plan cycleTarget tickTarget := by
  rw [plan, dif_pos due, dif_neg h]

/-- If nothing is due, nothing is planned. -/
theorem plan_of_not_due (h : ¬(s.cyclesIssued < cycleTarget ∨ s.ticksIssued < tickTarget)) :
    s.plan cycleTarget tickTarget = [] := by
  rw [plan, dif_neg h]

/-- Which slot is next is up to the rates and the counters alone. -/
theorem tickNext_congr {k : Scheduler α} (hcpu : k.cpuHz = s.cpuHz)
    (htimer : k.timerHz = s.timerHz) (hcycles : k.cyclesIssued = s.cyclesIssued)
    (hticks : k.ticksIssued = s.ticksIssued) :
    k.tickNext cycleTarget tickTarget = s.tickNext cycleTarget tickTarget := by
  rw [tickNext, tickNext, hcpu, htimer, hcycles, hticks]

/-- The plan is up to the rates and the counters alone. -/
theorem plan_congr {k : Scheduler α} (hcpu : k.cpuHz = s.cpuHz) (htimer : k.timerHz = s.timerHz)
    (hcycles : k.cyclesIssued = s.cyclesIssued) (hticks : k.ticksIssued = s.ticksIssued) :
    k.plan cycleTarget tickTarget = s.plan cycleTarget tickTarget := by
  have hnext : k.tickNext cycleTarget tickTarget = s.tickNext cycleTarget tickTarget :=
    tickNext_congr hcpu htimer hcycles hticks
  fun_induction plan s cycleTarget tickTarget generalizing k with
  | case1 s due tick ih =>
    rw [plan_of_tick (hnext.trans tick), hticks]
    have hticks' : k.countTick.ticksIssued = s.countTick.ticksIssued := congrArg (· + 1) hticks
    exact congrArg _ (ih hcpu htimer hcycles hticks' (tickNext_congr hcpu htimer hcycles hticks'))
  | case2 s due tick ih =>
    rw [plan_of_cycle (by rwa [hcycles, hticks]) (by rwa [hnext]), hcycles]
    have hcycles' : k.countSlot.cyclesIssued = s.countSlot.cyclesIssued :=
      congrArg (· + 1) hcycles
    exact congrArg _ (ih hcpu htimer hcycles' hticks (tickNext_congr hcpu htimer hcycles' hticks))
  | case3 s due => exact plan_of_not_due (by rwa [hcycles, hticks])

/-- **No tick is lost or issued twice**: a plan has those that are due, in the order of their
numbers. -/
theorem filterMap_tick?_plan (s : Scheduler α) (cycleTarget tickTarget : Nat) :
    (s.plan cycleTarget tickTarget).filterMap Slot.tick? =
      List.range' (s.ticksIssued + 1) (tickTarget - s.ticksIssued) := by
  fun_induction plan s cycleTarget tickTarget with
  | case1 s due tick ih =>
    have hlt := s.lt_of_tickNext tick
    have hsub : tickTarget - s.ticksIssued = (tickTarget - s.countTick.ticksIssued) + 1 := by
      simp only [countTick]; omega
    rw [List.filterMap_cons_some (Slot.tick?_tick _), ih, hsub, List.range'_succ]
    rfl
  | case2 s due tick ih =>
    rw [List.filterMap_cons_none (Slot.tick?_cycle _), ih]
    rfl
  | case3 s due =>
    have hsub : tickTarget - s.ticksIssued = 0 := by omega
    rw [hsub]
    rfl

/-- **No cycle slot is lost or issued twice.** -/
theorem filterMap_cycle?_plan (s : Scheduler α) (cycleTarget tickTarget : Nat) :
    (s.plan cycleTarget tickTarget).filterMap Slot.cycle? =
      List.range' (s.cyclesIssued + 1) (cycleTarget - s.cyclesIssued) := by
  fun_induction plan s cycleTarget tickTarget with
  | case1 s due tick ih =>
    rw [List.filterMap_cons_none (Slot.cycle?_tick _), ih]
    rfl
  | case2 s due tick ih =>
    have hlt := s.lt_of_not_tickNext due tick
    have hsub : cycleTarget - s.cyclesIssued = (cycleTarget - s.countSlot.cyclesIssued) + 1 := by
      simp only [countSlot]; omega
    rw [List.filterMap_cons_some (Slot.cycle?_cycle _), ih, hsub, List.range'_succ]
    rfl
  | case3 s due =>
    have hsub : cycleTarget - s.cyclesIssued = 0 := by omega
    rw [hsub]
    rfl

/-! ### The loop carries out its plan -/

/-- **The loop ends and carries out its plan**, on a machine whose cycles are all answered. -/
theorem issue_eq [Driven μ] {P : μ → Prop} (hP : Driven.Reliable P) (s : Scheduler α) {m : μ}
    (hm : P m) (cycleTarget tickTarget cycles ticks : Nat) (done : List Call) :
    let a := s.issue m cycleTarget tickTarget cycles ticks done
    let slots := s.plan cycleTarget tickTarget
    let calls := Driven.calls m slots
    a.scheduler = s.caughtUp cycleTarget tickTarget calls ∧ a.machine = Driven.after m slots ∧
      a.calls = done.reverse ++ calls ∧ a.error? = none := by
  fun_induction issue s m cycleTarget tickTarget cycles ticks done with
  | case1 s m cycles ticks done due tick ih =>
    have hlt := s.lt_of_tickNext tick
    obtain ⟨hs, hmachine, hcalls, herror⟩ := ih (hP.tick m hm)
    rw [plan_of_tick tick]
    refine ⟨?_, hmachine, ?_, herror⟩
    · rw [hs, caughtUp_countTick hlt, Driven.calls_tick]
    · rw [hcalls, Driven.calls_tick, List.reverse_cons, List.append_assoc, List.singleton_append]
  | case2 s m cycles ticks done due tick halted ih =>
    have hlt := s.lt_of_not_tickNext due tick
    obtain ⟨hs, hmachine, hcalls, herror⟩ := ih hm
    rw [plan_of_cycle due tick]
    refine ⟨?_, ?_, ?_, herror⟩
    · rw [hs, caughtUp_countSlot hlt, Driven.calls_of_halted halted]
    · rw [hmachine, Driven.after_cons, Driven.meet_of_halted halted]
    · rw [hcalls, Driven.calls_of_halted halted]
  | case3 s m cycles ticks done due tick halted n e hcycle =>
    obtain ⟨snapshot, hs⟩ := hP.answered m hm
    rw [hcycle] at hs
    cases hs
  | case4 s m cycles ticks done due tick halted n snapshot hcycle ih =>
    have hlt := s.lt_of_not_tickNext due tick
    have hn : P n := by
      have h := hP.cycle m hm
      rwa [hcycle] at h
    have hplan : (s.countSlot.record snapshot.fault).plan cycleTarget tickTarget =
        s.countSlot.plan cycleTarget tickTarget := plan_congr rfl rfl rfl rfl
    obtain ⟨hs, hmachine, hcalls, herror⟩ := ih hn
    rw [hplan] at hs hmachine hcalls
    rw [plan_of_cycle due tick]
    refine ⟨?_, ?_, ?_, herror⟩
    · rw [hs, caughtUp_record, caughtUp_countSlot hlt, Driven.calls_of_running halted, hcycle]
    · rw [hmachine, Driven.after_cons, Driven.meet_of_running halted, hcycle]
    · rw [hcalls, Driven.calls_of_running halted, hcycle, List.reverse_cons, List.append_assoc,
        List.singleton_append]
  | case5 s m cycles ticks done due =>
    have hcycles : max s.cyclesIssued cycleTarget = s.cyclesIssued := by omega
    have hticks : max s.ticksIssued tickTarget = s.ticksIssued := by omega
    have hcalls : Driven.calls m [] = [] := rfl
    rw [plan_of_not_due due]
    refine ⟨?_, rfl, ?_, rfl⟩
    · rw [hcalls, caughtUp, hcycles, hticks]
      rfl
    · rw [hcalls, List.append_nil]

/-- **The loop counts its calls.**  Of a machine nothing is asked: a cycle that breaks off is the
last call and is not counted. -/
theorem issue_counted [Driven μ] (s : Scheduler α) (m : μ)
    (cycleTarget tickTarget cycles ticks : Nat) (done : List Call)
    (hcycles : done.countP Call.isCycle = cycles) (hticks : done.countP (!·.isCycle) = ticks) :
    (s.issue m cycleTarget tickTarget cycles ticks done).Counted := by
  fun_induction issue s m cycleTarget tickTarget cycles ticks done with
  | case1 s m cycles ticks done due tick ih =>
    refine ih ?_ ?_
    · rw [List.countP_cons_of_neg Bool.false_ne_true, hcycles]
    · rw [List.countP_cons_of_pos rfl, hticks]
  | case2 s m cycles ticks done due tick halted ih => exact ih hcycles hticks
  | case3 s m cycles ticks done due tick halted n e hcycle =>
    constructor
    · rw [List.countP_reverse, List.countP_cons_of_pos rfl, hcycles]
      rfl
    · rw [List.countP_reverse, List.countP_cons_of_neg Bool.false_ne_true, hticks]
  | case4 s m cycles ticks done due tick halted n snapshot hcycle ih =>
    refine ih ?_ ?_
    · rw [List.countP_cons_of_pos rfl, hcycles]
    · rw [List.countP_cons_of_neg Bool.false_ne_true, hticks]
  | case5 s m cycles ticks done due =>
    constructor
    · rw [List.countP_reverse, hcycles]
      rfl
    · rw [List.countP_reverse, hticks]

/-! ### How much is due -/

/-- The scheduler with its clock moved on, by no more than the cap. -/
def moved (s : Scheduler α) (elapsed : α) : Scheduler α :=
  { s with now := ClockArithmetic.add s.now (ClockArithmetic.smaller elapsed s.maxCatchUp) }

/-- The numbers of cycle slots and of ticks that will have fallen due once an amount of time has
gone by, if they can be told. -/
def targets (s : Scheduler α) (elapsed : α) : Except AdvanceError (Int × Int) :=
  if ClockArithmetic.less elapsed ClockArithmetic.zero then .error .negative
  else
    match target (s.moved elapsed).now s.cpuHz, target (s.moved elapsed).now s.timerHz with
    | .error e, _ => .error (.floor e)
    | _, .error e => .error (.floor e)
    | .ok cycleTarget, .ok tickTarget => .ok (cycleTarget, tickTarget)

/-- The slots that an advance issues. -/
def slots (s : Scheduler α) (elapsed : α) : List Slot :=
  match s.targets elapsed with
  | .error _ => []
  | .ok (cycleTarget, tickTarget) => s.plan cycleTarget.toNat tickTarget.toNat

/-- To find out how much is due no cycle is run, and so none can break off. -/
theorem targets_ne_cycle {elapsed : α} (e : CycleError) :
    s.targets elapsed ≠ .error (.cycle e) := by
  unfold targets
  split
  · nofun
  · split <;> nofun

variable [Driven μ]

/-- An advance knows how much is due before it makes a call.  One that is refused makes none, and
only its clock may have moved. -/
theorem advance_eq_of_targets (s : Scheduler α) (m : μ) (elapsed : α) :
    s.advance m elapsed =
      match s.targets elapsed with
      | .error e => .refused (if e = .negative then s else s.moved elapsed) m e
      | .ok (cycleTarget, tickTarget) =>
        (s.moved elapsed).issue m cycleTarget.toNat tickTarget.toNat 0 0 [] := by
  by_cases hneg : ClockArithmetic.less elapsed ClockArithmetic.zero = true
  · rw [advance, targets, if_pos hneg, if_pos hneg]
    rfl
  · rw [advance, targets, if_neg hneg, if_neg hneg]
    dsimp only [moved]
    cases target (ClockArithmetic.add s.now (ClockArithmetic.smaller elapsed s.maxCatchUp))
      s.cpuHz with
    | error e => rfl
    | ok cycleTarget =>
      cases target (ClockArithmetic.add s.now (ClockArithmetic.smaller elapsed s.maxCatchUp))
        s.timerHz with
      | error e => rfl
      | ok tickTarget => rfl

/-- An advance that knows how much is due issues it, with its own counters at zero. -/
theorem advance_of_targets (m : μ) {elapsed : α} {cycleTarget tickTarget : Int}
    (h : s.targets elapsed = .ok (cycleTarget, tickTarget)) :
    s.advance m elapsed = (s.moved elapsed).issue m cycleTarget.toNat tickTarget.toNat 0 0 [] := by
  rw [advance_eq_of_targets, h]

/-- An advance that cannot tell how much is due is refused. -/
theorem advance_of_refused (m : μ) {elapsed : α} {e : AdvanceError}
    (h : s.targets elapsed = .error e) :
    s.advance m elapsed = .refused (if e = .negative then s else s.moved elapsed) m e := by
  rw [advance_eq_of_targets, h]

/-! ### The books of an advance -/

variable {P : μ → Prop} {m : μ} {elapsed : α}

/-- The slots of an advance are planned from what is due. -/
theorem slots_of_targets {cycleTarget tickTarget : Int}
    (h : s.targets elapsed = .ok (cycleTarget, tickTarget)) :
    s.slots elapsed = s.plan cycleTarget.toNat tickTarget.toNat := by
  rw [slots, h]

/-- An advance that is refused issues no slot. -/
theorem slots_of_refused {e : AdvanceError} (h : s.targets elapsed = .error e) :
    s.slots elapsed = [] := by
  rw [slots, h]

/-- **An advance counts its calls**, whatever the machine does, and also if it is refused. -/
theorem advance_counted (s : Scheduler α) (m : μ) (elapsed : α) :
    (s.advance m elapsed).Counted := by
  cases h : s.targets elapsed with
  | error e =>
    rw [advance_of_refused m h]
    refine Advance.counted_refused _ m fun e' he => ?_
    subst he
    exact targets_ne_cycle e' h
  | ok targets =>
    rw [advance_of_targets m h]
    exact issue_counted _ m _ _ 0 0 [] rfl rfl

/-- **An advance that knows how much is due carries out its slots**, to the end. -/
theorem advance_eq (hP : Driven.Reliable P) (hm : P m) {cycleTarget tickTarget : Int}
    (h : s.targets elapsed = .ok (cycleTarget, tickTarget)) :
    s.advance m elapsed =
      let calls := Driven.calls m (s.slots elapsed)
      ⟨(s.moved elapsed).caughtUp cycleTarget.toNat tickTarget.toNat calls,
        Driven.after m (s.slots elapsed), calls.countP Call.isCycle, calls.countP (!·.isCycle),
        calls, none⟩ := by
  have hplan : (s.moved elapsed).plan cycleTarget.toNat tickTarget.toNat =
      s.plan cycleTarget.toNat tickTarget.toNat := plan_congr rfl rfl rfl rfl
  obtain ⟨hs, hmachine, hcalls, herror⟩ :=
    issue_eq hP (s.moved elapsed) hm cycleTarget.toNat tickTarget.toNat 0 0 []
  rw [← advance_of_targets m h] at hs hmachine hcalls herror
  rw [hplan, ← slots_of_targets h] at hs hmachine hcalls
  have hcounted := s.advance_counted m elapsed
  refine Advance.ext hs hmachine ?_ ?_ hcalls herror
  · rw [← hcounted.cycles_of_none herror, hcalls]
    rfl
  · rw [← hcounted.ticks, hcalls]
    rfl

/-- An advance leaves the machine that its slots leave, also if it is refused. -/
theorem machine_advance (hP : Driven.Reliable P) (hm : P m) :
    (s.advance m elapsed).machine = Driven.after m (s.slots elapsed) := by
  cases h : s.targets elapsed with
  | error e =>
    rw [advance_of_refused m h, slots_of_refused h]
    rfl
  | ok targets => rw [advance_eq hP hm h]

/-- An advance leaves a reliable machine reliable. -/
theorem machine_advance_of_reliable (hP : Driven.Reliable P) (s : Scheduler α) (hm : P m)
    (elapsed : α) : P (s.advance m elapsed).machine := by
  rw [machine_advance hP hm]
  exact hP.after hm _

/-- An advance makes the calls of its slots, also if it is refused. -/
theorem calls_advance (hP : Driven.Reliable P) (hm : P m) :
    (s.advance m elapsed).calls = Driven.calls m (s.slots elapsed) := by
  cases h : s.targets elapsed with
  | error e =>
    rw [advance_of_refused m h, slots_of_refused h]
    rfl
  | ok targets => rw [advance_eq hP hm h]

/-- A plan leads to its targets, or stays where the counters are past them. -/
theorem issues_plan (s : Scheduler α) (cycleTarget tickTarget : Nat) {k : Scheduler α}
    (hticks : k.ticksIssued = max s.ticksIssued tickTarget)
    (hcycles : k.cyclesIssued = max s.cyclesIssued cycleTarget) :
    s.Issues (s.plan cycleTarget tickTarget) k := by
  refine ⟨by omega, by omega, ?_, ?_⟩
  · rw [filterMap_tick?_plan]
    congr 1
    omega
  · rw [filterMap_cycle?_plan]
    congr 1
    omega

/-- **What an advance issues leads from its counters to those it leaves**, also if it is
refused. -/
theorem issues_advance (hP : Driven.Reliable P) (hm : P m) :
    s.Issues (s.slots elapsed) (s.advance m elapsed).scheduler := by
  cases h : s.targets elapsed with
  | error e =>
    rw [advance_of_refused m h, slots_of_refused h]
    by_cases he : e = .negative
    · rw [if_pos he]
      exact issues_nil rfl rfl
    · rw [if_neg he]
      exact issues_nil rfl rfl
  | ok targets =>
    rw [advance_eq hP hm h, slots_of_targets h]
    exact issues_plan s _ _ rfl rfl

/-! ### A host at work with a scheduler -/

/-- Takes turns, one after the other, and goes on after an advance that is refused. -/
def drive (s : Scheduler α) (m : μ) : List (Turn α μ) → Drive α μ
  | [] => ⟨s, m, [], []⟩
  | turn :: turns =>
    let a := s.advance (turn.handle m) turn.elapsed
    let rest := a.scheduler.drive a.machine turns
    { rest with slots := s.slots turn.elapsed ++ rest.slots, calls := a.calls ++ rest.calls }

/-- **Over any turns the numbers go on without a gap**, whatever the host does in between. -/
theorem issues_drive (hP : Driven.Reliable P) (s : Scheduler α) (hm : P m)
    {turns : List (Turn α μ)} (hturns : ∀ turn ∈ turns, ∀ m, P m → P (turn.handle m)) :
    s.Issues (s.drive m turns).slots (s.drive m turns).scheduler := by
  induction turns generalizing s m with
  | nil => exact issues_nil rfl rfl
  | cons turn turns ih =>
    obtain ⟨hturn, hturns⟩ := List.forall_mem_cons.1 hturns
    have hstep : s.Issues (s.slots turn.elapsed)
        (s.advance (turn.handle m) turn.elapsed).scheduler := issues_advance hP (hturn m hm)
    have hleft : P (s.advance (turn.handle m) turn.elapsed).machine :=
      machine_advance_of_reliable hP s (hturn m hm) turn.elapsed
    exact hstep.append (ih _ hleft hturns)

/-- **The books of a scheduler.**  The clock's numbers may be of any kind and compare as they like.
An advance that knows how much is due comes to its end.  Its counters are then at their targets,
unless they were past them.  It tells how often it has ticked the machine and how many cycles it
has run: the ticks are as many as the one counter has grown, and the cycles as many as the other has
grown, less the cycle slots that were reached while the machine was halted.  And over any row of
turns, whatever the host does with the machine in between and whether an advance is refused or not,
the numbers of the ticks that are issued go on without a gap and without a repetition, and so do
those of the cycle slots. -/
theorem advance_accounts (hP : Driven.Reliable P) (s : Scheduler α) (hm : P m) :
    (∀ elapsed cycleTarget tickTarget, s.targets elapsed = .ok (cycleTarget, tickTarget) →
      let a := s.advance m elapsed
      a.error? = none ∧
        (a.scheduler.cyclesIssued : Int) = max (s.cyclesIssued : Int) cycleTarget ∧
        (a.scheduler.ticksIssued : Int) = max (s.ticksIssued : Int) tickTarget ∧
        a.calls = Driven.calls m (s.slots elapsed) ∧
        a.machine = Driven.after m (s.slots elapsed) ∧
        a.calls.countP (!·.isCycle) = a.ticks ∧ a.calls.countP Call.isCycle = a.cycles ∧
        s.ticksIssued + a.ticks = a.scheduler.ticksIssued ∧
        s.cyclesIssued + a.cycles + Driven.idle m (s.slots elapsed) =
          a.scheduler.cyclesIssued) ∧
      ∀ turns : List (Turn α μ), (∀ turn ∈ turns, ∀ m, P m → P (turn.handle m)) →
        s.Issues (s.drive m turns).slots (s.drive m turns).scheduler := by
  refine ⟨fun elapsed cycleTarget tickTarget h => ?_, fun turns => issues_drive hP s hm⟩
  have hissues : s.Issues (s.slots elapsed) (s.advance m elapsed).scheduler := issues_advance hP hm
  have hcalls : (s.advance m elapsed).calls = Driven.calls m (s.slots elapsed) :=
    calls_advance hP hm
  have herror : (s.advance m elapsed).error? = none := by rw [advance_eq hP hm h]
  have hcounted := s.advance_counted m elapsed
  have hcyclesCounted := hcounted.cycles_of_none herror
  have hticks : (s.advance m elapsed).ticks =
      (s.advance m elapsed).scheduler.ticksIssued - s.ticksIssued := by
    rw [← hcounted.ticks, hcalls, Driven.countP_tick_calls, hissues.ticks, List.length_range']
  have hcycles : (s.advance m elapsed).cycles + Driven.idle m (s.slots elapsed) =
      (s.advance m elapsed).scheduler.cyclesIssued - s.cyclesIssued := by
    rw [← hcyclesCounted, hcalls, Driven.countP_cycle_calls, hissues.cycles, List.length_range']
  have hticks_le := hissues.ticks_le
  have hcycles_le := hissues.cycles_le
  refine ⟨herror, ?_, ?_, hcalls, machine_advance hP hm, hcounted.ticks, hcyclesCounted,
    by omega, by omega⟩
  · have hmax : (s.advance m elapsed).scheduler.cyclesIssued =
        max s.cyclesIssued cycleTarget.toNat := by
      rw [advance_eq hP hm h]
      rfl
    omega
  · have hmax : (s.advance m elapsed).scheduler.ticksIssued =
        max s.ticksIssued tickTarget.toNat := by
      rw [advance_eq hP hm h]
      rfl
    omega

/-- A machine that is reset and then left to run for a tenth of a second, in floating point. -/
theorem advance_accounts_tenth :
    let s : Scheduler Float := .start 500 60 0.25
    let m := Machine.new .reference (some 0)
    let turns : List (Turn Float Machine) := [⟨Machine.reset, 0.1⟩, ⟨Machine.tick, -1⟩]
    (m.Bounded ∧ m.Recorded) ∧ s.targets 0.1 = .ok (50, 6) ∧
      (s.advance m 0.1).scheduler.cyclesIssued = 50 ∧ (s.advance m 0.1).ticks = 6 ∧
      s.Issues (s.drive m turns).slots (s.drive m turns).scheduler := by
  have htargets : (start 500 60 0.25 : Scheduler Float).targets 0.1 = .ok (50, 6) := rfl
  intro s m turns
  have hm : m.Bounded ∧ m.Recorded := ⟨Machine.bounded_new _ _, Machine.recorded_of_start rfl rfl⟩
  obtain ⟨hadvance, hdrive⟩ := advance_accounts Machine.reliable s hm
  obtain ⟨-, hcycles, hticks, -, -, -, -, hcount, -⟩ := hadvance 0.1 50 6 htargets
  have hstart : s.cyclesIssued = 0 ∧ s.ticksIssued = 0 := ⟨rfl, rfl⟩
  refine ⟨hm, htargets, by omega, by omega, hdrive turns ?_⟩
  intro turn hturn m hm
  rcases List.mem_cons.1 hturn with rfl | hturn
  · exact ⟨Machine.bounded_reset m, Machine.recorded_of_start rfl rfl⟩
  · rw [List.mem_singleton.1 hturn]
    exact Machine.reliable.tick m hm

end Scheduler
end Chip8
