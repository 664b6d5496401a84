/-
# A machine that halts while a scheduler drives it

A fault halts a machine until its host starts it over, and the clocks of a
scheduler do not stop for that.  Three things follow.  A halted machine gets no
cycles: the one that has halted it is the last of its advance, and then there are
only ticks.  The cycle slots of the time that it is halted are gone: the counters
keep up with the clock whatever the machine does, so that a machine that is started
over has no backlog to work off.  And of the cycles that faulted the scheduler
remembers the last one.

The first and the third can be read off the calls of an advance.  The second needs
more.  What was due at the time at which an advance begins must have been issued
before (`Scheduler.UpToDate`), and after an advance that has failed that need not be
so.  But then all further ones fail as well, because what can be counted at some
time could have been counted at every earlier one (`exists_target_of_later`).
-/

import Chip8.Proofs.Overflow

namespace Chip8

/-! ### The calls of an advance -/

namespace Driven

variable {μ : Type} [Driven μ]

/-- What a call makes of a machine. -/
def obey (m : μ) : Call → μ
  | .tick => tick m
  | .cycle _ => (cycle m).1

/-- The machine after a row of calls. -/
def replay (m : μ) (calls : List Call) : μ := calls.foldl obey m

/-- A row of slots makes of a machine what the calls that come of it make of it. -/
theorem after_eq_replay (m : μ) (slots : List Slot) :
    after m slots = replay m (calls m slots) := by
  induction slots generalizing m with
  | nil => rfl
  | cons slot slots ih =>
    rw [after_cons, ih]
    cases slot with
    | tick j => rfl
    | cycle k =>
      by_cases hh : isHalted m = true
      · rw [meet_of_halted hh, calls_of_halted hh]
      · rw [meet_of_running hh, calls_of_running hh]
        rfl

/-- **A cycle is made on a machine that is not halted,** and the calls after it are up to the
machine that it leaves. -/
theorem exists_calls_eq_of_cycle {m : μ} {slots : List Slot} {before after : List Call}
    {answer : Except CycleError Snapshot}
    (h : calls m slots = before ++ .cycle answer :: after) :
    ¬isHalted (replay m before) = true ∧ answer = (cycle (replay m before)).2 ∧
      ∃ more, after = calls (cycle (replay m before)).1 more := by
  induction slots generalizing m before with
  | nil =>
    have hmem : Call.cycle answer ∈ calls m [] := by
      rw [h]
      exact List.mem_append_right _ List.mem_cons_self
    cases hmem
  | cons slot slots ih =>
    cases slot with
    | tick j =>
      rw [calls_tick] at h
      cases before with
      | nil => cases h
      | cons call before =>
        obtain ⟨rfl, hcalls⟩ := List.cons.inj h
        exact ih (m := tick m) hcalls
    | cycle k =>
      by_cases hh : isHalted m = true
      · rw [calls_of_halted hh] at h
        exact ih h
      · rw [calls_of_running hh] at h
        cases before with
        | nil =>
          obtain ⟨hanswer, hafter⟩ := List.cons.inj h
          exact ⟨hh, (Call.cycle.inj hanswer).symm, slots, hafter.symm⟩
        | cons call before =>
          obtain ⟨rfl, hcalls⟩ := List.cons.inj h
          exact ih (m := (cycle m).1) hcalls

end Driven

/-- Ticks do not start a machine over, so once it is halted it gets nothing else. -/
theorem Machine.eq_tick_of_mem_calls {m : Machine} (hh : m.halted = true) {slots : List Slot}
    {call : Call} (h : call ∈ Driven.calls m slots) : call = .tick := by
  induction slots generalizing m with
  | nil => cases h
  | cons slot slots ih =>
    cases slot with
    | tick j =>
      rw [Driven.calls_tick] at h
      rcases List.mem_cons.1 h with rfl | h
      · rfl
      · exact ih (m := m.tick) hh h
    | cycle k =>
      rw [Driven.calls_of_halted hh] at h
      exact ih hh h

namespace Scheduler

/-! ### What an advance makes of the last fault -/

section Calls

variable {α μ : Type} [ClockArithmetic α] [Driven μ] {P : μ → Prop} {m : μ} {s : Scheduler α}
  {elapsed : α}

/-- To note each fault as it comes is to note the last one. -/
theorem foldl_fault? (calls : List Call) (last : Option Fault) :
    calls.foldl (fun last call => call.fault?.or last) last =
      (calls.filterMap Call.fault?).getLast?.or last := by
  induction calls generalizing last with
  | nil => rfl
  | cons call calls ih =>
    rw [List.foldl_cons, ih]
    cases hcall : call.fault? with
    | none => rw [List.filterMap_cons_none hcall, Option.none_or]
    | some fault =>
      rw [List.filterMap_cons_some hcall, List.getLast?_cons, Option.some_or]
      cases (calls.filterMap Call.fault?).getLast? <;> rfl

/-- The last fault is that of the last call that ran into one, or what it was before. -/
theorem lastFault_advance (hP : Driven.Reliable P) (hm : P m) :
    (s.advance m elapsed).scheduler.lastFault =
      ((s.advance m elapsed).calls.filterMap Call.fault?).getLast?.or s.lastFault := by
  cases h : s.targets elapsed with
  | error e =>
    rw [advance_of_refused m h]
    by_cases he : e = .negative
    · rw [if_pos he]
      rfl
    · rw [if_neg he]
      rfl
  | ok targets =>
    rw [advance_eq hP hm h]
    exact foldl_fault? _ _

/-! ### What an advance makes of the counters -/

/-- An advance ticks the machine as often as it counts a tick. -/
theorem ticks_advance (hP : Driven.Reliable P) (hm : P m) :
    s.ticksIssued + (s.advance m elapsed).ticks = (s.advance m elapsed).scheduler.ticksIssued := by
  have hissues : s.Issues (s.slots elapsed) (s.advance m elapsed).scheduler := issues_advance hP hm
  rw [← (s.advance_counted m elapsed).ticks, calls_advance hP hm, Driven.countP_tick_calls,
    hissues.ticks, List.length_range']
  exact Nat.add_sub_cancel' hissues.ticks_le

/-- It runs a cycle at most as often as it counts a cycle slot. -/
theorem cycles_advance_le (hP : Driven.Reliable P) (hm : P m) :
    s.cyclesIssued + (s.advance m elapsed).cycles ≤
      (s.advance m elapsed).scheduler.cyclesIssued := by
  have hissues : s.Issues (s.slots elapsed) (s.advance m elapsed).scheduler := issues_advance hP hm
  have hslots := Driven.countP_cycle_calls m (s.slots elapsed)
  rw [hissues.cycles, List.length_range'] at hslots
  have hle := hissues.cycles_le
  rw [← calls_advance hP hm, (s.advance_counted m elapsed).cycles] at hslots
  omega

end Calls

/-! ### What is due has been issued -/

section Targets

variable {α : Type} [ClockArithmetic α]

/-- An advance refuses a negative time; else it knows how much is due if the counts of both clocks
can be told. -/
theorem targets_cases (s : Scheduler α) (elapsed : α) :
    (s.targets elapsed = .error .negative) ∨
      ¬ClockArithmetic.less elapsed ClockArithmetic.zero = true ∧
        ((∃ cycleTarget tickTarget, target (s.moved elapsed).now s.cpuHz = .ok cycleTarget ∧
            target (s.moved elapsed).now s.timerHz = .ok tickTarget ∧
            s.targets elapsed = .ok (cycleTarget, tickTarget)) ∨
          ∃ e, s.targets elapsed = .error (.floor e) ∧
            ∀ cycleTarget tickTarget, target (s.moved elapsed).now s.cpuHz = .ok cycleTarget →
              target (s.moved elapsed).now s.timerHz ≠ .ok tickTarget) := by
  by_cases hneg : ClockArithmetic.less elapsed ClockArithmetic.zero = true
  · exact .inl (if_pos hneg)
  · refine .inr ⟨hneg, ?_⟩
    rw [targets, if_neg hneg]
    cases target (s.moved elapsed).now s.cpuHz with
    | error e => exact .inr ⟨e, rfl, fun _ _ h => by cases h⟩
    | ok cycleTarget =>
      cases target (s.moved elapsed).now s.timerHz with
      | error e => exact .inr ⟨e, rfl, fun _ _ _ h => by cases h⟩
      | ok tickTarget => exact .inl ⟨cycleTarget, tickTarget, rfl, rfl, rfl⟩

end Targets

open Binary64 (Unsigned)
open Float.Model (UnpackedFloat)

/-- A count can be told just if the product with the frequency does not overflow. -/
theorem exists_target_iff (now hz : Float) :
    (∃ k, target now hz = .ok k) ↔ (now * hz + 1e-9).isFinite = true :=
  Binary64.exists_floor_iff _

/-- The slack is a number that can be added to any number without an overflow. -/
theorem exists_slack : ∃ v, Binary64.HasValue 1e-9 v ∧ v < Binary64.magnitude 1 970 := by
  refine ⟨Binary64.magnitude 4835703278458517 (-82), ?_, ?_⟩
  · have hunpack : (1e-9 : Float).toModel.unpack =
        .finite .positive 4835703278458517 (-82) (by decide) := rfl
    rw [Binary64.HasValue, hunpack]
    exact .finite (by decide) ⟨by decide, by decide, .inl (by decide)⟩ (by decide)
  · calc Binary64.magnitude 4835703278458517 (-82)
      _ < Binary64.magnitude (1 * 2 ^ 53) (-82) := Binary64.magnitude_lt_iff.2 (by decide)
      _ = Binary64.magnitude 1 (-82 + 53) := Binary64.magnitude_shift 1 (-82) 53
      _ ≤ Binary64.magnitude 1 970 := Binary64.magnitude_le le_rfl (by decide)

/-- **What can be counted at some time could have been counted before.** -/
theorem exists_target_of_later {now counted hz : Float} (hnow : Unsigned now)
    (hcounted : Unsigned counted) (hhz : Unsigned hz)
    (h : ∃ k, target (now + counted) hz = .ok k) : ∃ k, target now hz = .ok k := by
  obtain ⟨v, hslack, hsmall⟩ := exists_slack
  rw [exists_target_iff] at h ⊢
  exact Binary64.isFinite_of_later hnow hcounted hhz hslack hsmall h

/-- At time zero nothing has fallen due. -/
theorem eq_zero_of_target_zero {hz : Float} {k : Int} (h : target 0 hz = .ok k) : k = 0 := by
  have hcount : target 0 hz = (Binary64.ofFloat (0 * hz + 1e-9)).floor := rfl
  have hproduct : (0 : Float) * hz =
      .ofModel (.pack (.mul .binary64 (.zero .positive) hz.toModel.unpack)) := rfl
  by_cases hfinite : hz.toModel.unpack.isFinite = true
  · have hzero : ∃ sign, UnpackedFloat.mul .binary64 (.zero .positive) hz.toModel.unpack =
        .zero sign := by
      cases hu : hz.toModel.unpack with
      | notANumber => rw [hu] at hfinite; cases hfinite
      | infinity sign => rw [hu] at hfinite; cases hfinite
      | zero sign => exact ⟨_, rfl⟩
      | finite sign m e hm => exact ⟨_, rfl⟩
    obtain ⟨sign, hsign⟩ := hzero
    rw [hcount, hproduct, hsign] at h
    cases sign
    · exact (Except.ok.inj h).symm
    · exact (Except.ok.inj h).symm
  · have hlost : (0 * hz : Float).isFinite = false :=
      (Binary64.pack_of_not_finite (Binary64.isFinite_mul_right _ (Bool.eq_false_of_not_eq_true
        hfinite))).1
    obtain ⟨e, he⟩ := (Binary64.isFinite_add_float hlost 1e-9).2
    rw [hcount, he] at h
    cases h

/-- A scheduler that is not behind: its numbers are not below zero, and if it can be told what is
due at its time, then that has been issued. -/
structure UpToDate (s : Scheduler Float) : Prop where
  cpuHz : Unsigned s.cpuHz
  timerHz : Unsigned s.timerHz
  maxCatchUp : Unsigned s.maxCatchUp
  now : Unsigned s.now
  issued : ∀ cycleTarget tickTarget, target s.now s.cpuHz = .ok cycleTarget →
    target s.now s.timerHz = .ok tickTarget →
      cycleTarget ≤ s.cyclesIssued ∧ tickTarget ≤ s.ticksIssued

/-- At time zero nothing is due, and nothing has been issued. -/
theorem upToDate_start {cpuHz timerHz maxCatchUp : Float} (hcpu : Unsigned cpuHz)
    (htimer : Unsigned timerHz) (hcap : Unsigned maxCatchUp) :
    (start cpuHz timerHz maxCatchUp).UpToDate := by
  have hnow : Unsigned (0 : Float) := fun _ => ⟨0, .zero .positive⟩
  refine ⟨hcpu, htimer, hcap, hnow, fun cycleTarget tickTarget hcycle htick => ?_⟩
  rw [eq_zero_of_target_zero hcycle, eq_zero_of_target_zero htick]
  exact ⟨le_rfl, le_rfl⟩

/-- Numbers that are not known to be at most zero are not below zero. -/
theorem unsigned_of_toFloat? {n : Number} {x : Float} (hn : n.notPositive = false)
    (h : n.toFloat? = some x) : Unsigned x := by
  cases n with
  | int n =>
    have hpos : 0 < n := by
      have hle : ¬n ≤ 0 := of_decide_eq_false hn
      omega
    obtain ⟨k, rfl⟩ := Int.eq_ofNat_of_zero_le hpos.le
    rw [Number.toFloat?, Number.nearest?] at h
    split at h
    · exact Option.some.inj h ▸ Binary64.unsigned_ofNat k
    · cases h
  | float y =>
    obtain rfl : y = x := Option.some.inj h
    exact Binary64.unsigned_of_not_lt fun hlt => of_decide_eq_false hn (Binary64.le_of_lt hlt)

/-- A scheduler that is made starts at time zero, with rates and a cap that are not negative. -/
theorem exists_start_of_ofNumbers {cpuHz timerHz maxCatchUp : Number} {s : Scheduler Float}
    (h : ofNumbers cpuHz timerHz maxCatchUp = .ok s) :
    ∃ cpuHz' timerHz' maxCatchUp', Unsigned cpuHz' ∧ Unsigned timerHz' ∧ Unsigned maxCatchUp' ∧
      s = start cpuHz' timerHz' maxCatchUp' := by
  rw [ofNumbers] at h
  split at h
  · cases h
  · rename_i hrates
    rw [Bool.or_eq_true, not_or, Bool.not_eq_true, Bool.not_eq_true] at hrates
    split at h
    · cases h
    · rename_i hcap
      rw [Bool.not_eq_true] at hcap
      split at h
      · rename_i cpuHz' timerHz' maxCatchUp' hcpu' htimer' hcap'
        exact ⟨cpuHz', timerHz', maxCatchUp', unsigned_of_toFloat? hrates.1 hcpu',
          unsigned_of_toFloat? hrates.2 htimer', unsigned_of_toFloat? hcap hcap',
          (Except.ok.inj h).symm⟩
      · cases h

/-- A scheduler that is set back has nothing to catch up. -/
theorem UpToDate.reset {s : Scheduler Float} (h : s.UpToDate) : s.reset.UpToDate :=
  upToDate_start h.cpuHz h.timerHz h.maxCatchUp

section Advance

variable {μ : Type} [Driven μ] {P : μ → Prop} {m : μ} {s : Scheduler Float}

/-- The time that counts is not below zero. -/
theorem UpToDate.unsigned_counted (h : s.UpToDate) {elapsed : Float}
    (hless : ¬ClockArithmetic.less elapsed ClockArithmetic.zero = true) :
    Unsigned (ClockArithmetic.smaller elapsed s.maxCatchUp) := by
  rw [ClockArithmetic.smaller]
  split
  · exact h.maxCatchUp
  · exact Binary64.unsigned_of_not_lt fun hlt => hless (decide_eq_true hlt)

/-- **No advance leaves a scheduler behind.** -/
theorem UpToDate.advance (hP : Driven.Reliable P) (h : s.UpToDate) (hm : P m) (elapsed : Float) :
    (s.advance m elapsed).scheduler.UpToDate := by
  rcases s.targets_cases elapsed with hneg | ⟨hless, htargets⟩
  · rw [advance_of_refused m hneg]
    exact h
  · have hnow : Unsigned (s.moved elapsed).now := h.now.add (h.unsigned_counted hless)
    rcases htargets with ⟨cycleTarget, tickTarget, hcycle, htick, hok⟩ | ⟨e, he, hnone⟩
    · rw [advance_eq hP hm hok]
      refine ⟨h.cpuHz, h.timerHz, h.maxCatchUp, hnow, fun cycleTarget' tickTarget' hc ht => ?_⟩
      obtain rfl : cycleTarget = cycleTarget' := Except.ok.inj (hcycle.symm.trans hc)
      obtain rfl : tickTarget = tickTarget' := Except.ok.inj (htick.symm.trans ht)
      simp only [caughtUp]
      omega
    · rw [advance_of_refused m he]
      exact ⟨h.cpuHz, h.timerHz, h.maxCatchUp, hnow, fun _ _ hc ht => absurd ht (hnone _ _ hc)⟩

/-- So it is with numbers of any kind, refused or not. -/
theorem UpToDate.advanceBy (hP : Driven.Reliable P) (h : s.UpToDate) (hm : P m)
    (elapsed : Number) : (s.advanceBy m elapsed).scheduler.UpToDate := by
  rcases s.advanceBy_cases m elapsed with ⟨e, -, ha⟩ | ⟨x, -, ha⟩
  · rw [ha]
    exact h
  · rw [ha]
    exact h.advance hP hm x

/-- If it can be told what is due once some time has gone by, then it can be told what is due now,
and that has been issued. -/
theorem UpToDate.exists_target (h : s.UpToDate) {elapsed : Float} {cycleTarget tickTarget : Int}
    (hless : ¬ClockArithmetic.less elapsed ClockArithmetic.zero = true)
    (hcycle : target (s.moved elapsed).now s.cpuHz = .ok cycleTarget)
    (htick : target (s.moved elapsed).now s.timerHz = .ok tickTarget) :
    ∃ due, target s.now s.cpuHz = .ok due ∧ due ≤ s.cyclesIssued := by
  have hcounted := h.unsigned_counted hless
  obtain ⟨due, hdue⟩ := exists_target_of_later h.now hcounted h.cpuHz ⟨_, hcycle⟩
  obtain ⟨ticksDue, hticks⟩ := exists_target_of_later h.now hcounted h.timerHz ⟨_, htick⟩
  exact ⟨due, hdue, (h.issued due ticksDue hdue hticks).1⟩

/-- **The slots of an advance** that succeeds.  All cycle slots that were due at its beginning have
been issued before; at its end those that are due then have been, and so have the ticks. -/
theorem UpToDate.slots_of_advance (hP : Driven.Reliable P) (h : s.UpToDate) (hm : P m)
    {elapsed : Float} (hok : (s.advance m elapsed).error? = none) :
    let a := s.advance m elapsed
    ∃ dueBefore due ticksDue, target s.now s.cpuHz = .ok dueBefore ∧
      target a.scheduler.now s.cpuHz = .ok due ∧ target a.scheduler.now s.timerHz = .ok ticksDue ∧
      (a.scheduler.cyclesIssued : Int) = max (s.cyclesIssued : Int) due ∧
      (a.cycles : Int) ≤ max 0 (due - dueBefore) ∧
      (s.ticksIssued + a.ticks : Int) = max (s.ticksIssued : Int) ticksDue := by
  rcases s.targets_cases elapsed with hneg | ⟨hless, htargets⟩
  · rw [advance_of_refused m hneg] at hok
    cases hok
  · rcases htargets with ⟨due, ticksDue, hdue, hticks, htargets⟩ | ⟨e, he, -⟩
    · obtain ⟨dueBefore, hbefore, hissued⟩ := h.exists_target hless hdue hticks
      have hticked : s.ticksIssued + (s.advance m elapsed).ticks =
          (s.advance m elapsed).scheduler.ticksIssued := ticks_advance hP hm
      have hcycled : s.cyclesIssued + (s.advance m elapsed).cycles ≤
          (s.advance m elapsed).scheduler.cyclesIssued := cycles_advance_le hP hm
      have hleft : (s.advance m elapsed).scheduler = (s.moved elapsed).caughtUp due.toNat
          ticksDue.toNat (Driven.calls m (s.slots elapsed)) := by
        rw [advance_eq hP hm htargets]
      rw [hleft] at hticked hcycled
      simp only [hleft]
      simp only [caughtUp, moved] at hticked hcycled ⊢
      exact ⟨dueBefore, due, ticksDue, hbefore, hdue, hticks, by omega, by omega, by omega⟩
    · rw [advance_of_refused m he] at hok
      cases hok

end Advance

end Scheduler

/-! ### A host at work with a machine and its scheduler -/

/-- Something that a host asks of a machine or of its scheduler. -/
inductive Request where
  | call (c : HostCall)
  /-- To let a number of seconds go by. -/
  | advance (elapsed : Number)
  /-- To set the scheduler back to time zero. -/
  | restart

/-- A machine and its scheduler. -/
structure Console where
  machine : Machine
  scheduler : Scheduler Float
  /-- The scheduler's calls on the machine, since it was at time zero. -/
  issued : List Call := []

namespace Console

/-- Answers a request. -/
def serve (c : Console) : Request → Console
  | .call h => { c with machine := (c.machine.serve h).1 }
  | .advance elapsed =>
    let a := c.scheduler.advanceBy c.machine elapsed
    ⟨a.machine, a.scheduler, c.issued ++ a.calls⟩
  | .restart => { c with scheduler := c.scheduler.reset, issued := [] }

/-- What is left after a row of requests. -/
def run (c : Console) (requests : List Request) : Console := requests.foldl serve c

/-- A machine within its bounds, whose records agree, and a scheduler that is not behind and
remembers the last fault. -/
structure Sound (c : Console) : Prop where
  machine : c.machine.Bounded ∧ c.machine.Recorded
  scheduler : c.scheduler.UpToDate
  lastFault : c.scheduler.lastFault = (c.issued.filterMap Call.fault?).getLast?

variable {c : Console}

/-- An advance keeps what is known of the two, also one that fails. -/
theorem Sound.advance (h : c.Sound) (elapsed : Number) : (c.serve (.advance elapsed)).Sound := by
  have hscheduler := h.scheduler.advanceBy Machine.reliable h.machine elapsed
  rcases c.scheduler.advanceBy_cases c.machine elapsed with ⟨e, -, ha⟩ | ⟨x, -, ha⟩
  · simp only [serve, ha, Advance.refused_scheduler, Advance.refused_machine,
      Advance.refused_calls, List.append_nil]
    exact h
  · rw [ha] at hscheduler
    simp only [serve, ha]
    refine ⟨Scheduler.machine_advance_of_reliable Machine.reliable _ h.machine x, hscheduler, ?_⟩
    rw [Scheduler.lastFault_advance Machine.reliable h.machine, h.lastFault, List.filterMap_append,
      List.getLast?_append]

/-- **What a request keeps.** -/
theorem Sound.serve (h : c.Sound) (r : Request) : (c.serve r).Sound := by
  cases r with
  | call call =>
    exact ⟨⟨h.machine.1.serve call, h.machine.2.serve h.machine.1 call⟩, h.scheduler, h.lastFault⟩
  | advance elapsed => exact h.advance elapsed
  | restart => exact ⟨h.machine, h.scheduler.reset, rfl⟩

/-- **What is known of a machine and its scheduler holds after any requests.** -/
theorem Sound.run (h : c.Sound) (requests : List Request) : (c.run requests).Sound := by
  induction requests generalizing c with
  | nil => exact h
  | cons r requests ih => exact ih (h.serve r)

/-- **The calls of an advance**, up to a cycle and from there on. -/
theorem Sound.cycle_of_calls (h : c.Sound) {elapsed : Number} {before after : List Call}
    {answer : Except CycleError Snapshot}
    (hcalls : (c.scheduler.advanceBy c.machine elapsed).calls = before ++ .cycle answer :: after) :
    let m := Driven.replay c.machine before
    m.halted = false ∧ answer = m.cycle.2 ∧
      (m.cycle.1.halted = true → ∀ call ∈ after, call = .tick) := by
  rcases c.scheduler.advanceBy_cases c.machine elapsed with ⟨e, -, ha⟩ | ⟨x, -, ha⟩
  · rw [ha] at hcalls
    cases before <;> cases hcalls
  · rw [ha, Scheduler.calls_advance Machine.reliable h.machine] at hcalls
    obtain ⟨hrunning, hanswer, more, hafter⟩ := Driven.exists_calls_eq_of_cycle hcalls
    refine ⟨Bool.eq_false_of_not_eq_true hrunning, hanswer, fun hhalted call hcall => ?_⟩
    rw [hafter] at hcall
    exact Machine.eq_tick_of_mem_calls hhalted hcall

/-- An advance makes of the machine what its calls make of it. -/
theorem Sound.machine_advanceBy (h : c.Sound) (elapsed : Number) :
    (c.scheduler.advanceBy c.machine elapsed).machine =
      Driven.replay c.machine (c.scheduler.advanceBy c.machine elapsed).calls := by
  rcases c.scheduler.advanceBy_cases c.machine elapsed with ⟨e, -, ha⟩ | ⟨x, -, ha⟩
  · rw [ha]
    rfl
  · rw [ha, Scheduler.machine_advance Machine.reliable h.machine,
      Scheduler.calls_advance Machine.reliable h.machine, Driven.after_eq_replay]

/-- An advance that fails has made no call. -/
theorem Sound.calls_eq_nil (h : c.Sound) {elapsed : Number}
    (herror : (c.scheduler.advanceBy c.machine elapsed).error? ≠ none) :
    (c.scheduler.advanceBy c.machine elapsed).calls = [] := by
  obtain ⟨e, he⟩ := Option.ne_none_iff_exists'.1 herror
  rcases Scheduler.advanceBy_refused_cases Machine.reliable c.scheduler h.machine he with
    ⟨-, ha⟩ | ⟨why, x, -, -, ha⟩
  · rw [ha]
    rfl
  · rw [ha]
    rfl

/-- An advance tells how many cycles it has made, and how many ticks. -/
theorem Sound.countP_calls (h : c.Sound) (elapsed : Number) :
    let a := c.scheduler.advanceBy c.machine elapsed
    a.calls.countP Call.isCycle = a.cycles ∧ a.calls.countP (!·.isCycle) = a.ticks := by
  intro a
  have hcounted : a.Counted := c.scheduler.advanceBy_counted c.machine elapsed
  refine ⟨?_, hcounted.ticks⟩
  by_cases hnone : a.error? = none
  · exact hcounted.cycles_of_none hnone
  · have hcycles := hcounted.cycles
    rw [h.calls_eq_nil hnone, List.countP_nil] at hcycles ⊢
    omega

/-- **Halts under a scheduler.**  However a host has gone about with a new machine and its
scheduler, the scheduler remembers a fault just if one of its cycles ran into one, and then that of
the last one that did.  An advance tells how many cycles and how many ticks it has made.  Each of
its cycles is made on a machine that is not halted; and the one that halts it is counted, is the
last one, and only ticks come after it.  An advance that fails
makes no call.  One that succeeds issues all ticks that are due; its counter of cycle slots catches
up with its time, whatever the machine does; and it makes no more cycles than there are slots that
have fallen due since it began. -/
theorem run_advance_halts {cpuHz timerHz maxCatchUp : Number} {s : Scheduler Float}
    (hs : Scheduler.ofNumbers cpuHz timerHz maxCatchUp = .ok s) (keyScan : KeyScan)
    (seed : Option Int) (requests : List Request) :
    let c := Console.run ⟨.new keyScan seed, s, []⟩ requests
    (c.scheduler.lastFault = none ↔ ∀ call ∈ c.issued, call.fault? = none) ∧
      c.scheduler.lastFault = (c.issued.filterMap Call.fault?).getLast? ∧
      ∀ elapsed,
        let a := c.scheduler.advanceBy c.machine elapsed
        a.machine = Driven.replay c.machine a.calls ∧
        (a.calls.countP Call.isCycle = a.cycles ∧ a.calls.countP (!·.isCycle) = a.ticks) ∧
        (∀ before answer after, a.calls = before ++ .cycle answer :: after →
          let m := Driven.replay c.machine before
          m.halted = false ∧ answer = m.cycle.2 ∧
            (m.cycle.1.halted = true →
              (∀ call ∈ after, call = .tick) ∧ a.cycles = before.countP Call.isCycle + 1)) ∧
        (a.error? ≠ none → a.calls = []) ∧
        (a.error? = none → ∃ dueBefore due ticksDue,
          Scheduler.target c.scheduler.now c.scheduler.cpuHz = .ok dueBefore ∧
          Scheduler.target a.scheduler.now c.scheduler.cpuHz = .ok due ∧
          Scheduler.target a.scheduler.now c.scheduler.timerHz = .ok ticksDue ∧
          (a.scheduler.cyclesIssued : Int) = max (c.scheduler.cyclesIssued : Int) due ∧
          (a.cycles : Int) ≤ max 0 (due - dueBefore) ∧
          (c.scheduler.ticksIssued + a.ticks : Int) =
            max (c.scheduler.ticksIssued : Int) ticksDue) := by
  intro c
  obtain ⟨cpu, timer, cap, hcpu, htimer, hcap, rfl⟩ := Scheduler.exists_start_of_ofNumbers hs
  have hnew : Sound ⟨.new keyScan seed, .start cpu timer cap, []⟩ :=
    ⟨⟨Machine.bounded_new keyScan seed, Machine.recorded_of_start rfl rfl⟩,
      Scheduler.upToDate_start hcpu htimer hcap, rfl⟩
  have h : c.Sound := hnew.run requests
  refine ⟨?_, h.lastFault, fun elapsed =>
    ⟨h.machine_advanceBy elapsed, h.countP_calls elapsed, ?_, h.calls_eq_nil, ?_⟩⟩
  · rw [h.lastFault, List.getLast?_eq_none_iff, List.filterMap_eq_nil_iff]
  · intro before answer after hcalls m
    obtain ⟨hrunning, hanswer, hlater⟩ := h.cycle_of_calls hcalls
    refine ⟨hrunning, hanswer, fun hhalted => ⟨hlater hhalted, ?_⟩⟩
    have hnone : after.countP Call.isCycle = 0 := List.countP_eq_zero.2 fun call hcall => by
      rw [hlater hhalted call hcall]
      exact Bool.false_ne_true
    rw [← (h.countP_calls elapsed).1, hcalls, List.countP_append, List.countP_cons_of_pos rfl,
      hnone]
  · intro hok
    rcases c.scheduler.advanceBy_cases c.machine elapsed with ⟨e, -, ha⟩ | ⟨x, -, ha⟩
    · rw [ha] at hok
      cases hok
    · rw [ha] at hok ⊢
      exact h.scheduler.slots_of_advance Machine.reliable h.machine hok

/-- A lone return halts its machine in its first cycle.  Of the fifty cycles that are due after a
tenth of a second it is the only one that is made; but the slots are used up, and there are six
ticks. -/
theorem run_advance_halts_lone_return :
    let s : Scheduler Float := .start 500 60 0.25
    let c := Console.run ⟨.new .full (some 7), s, []⟩ [.call (.load [0x00, 0xEE])]
    let a := c.scheduler.advanceBy c.machine (.float 0.1)
    Scheduler.ofNumbers (.int 500) (.int 60) (.float 0.25) = .ok s ∧
      c.scheduler.lastFault = none ∧
      a.cycles = 1 ∧ a.scheduler.cyclesIssued = 50 ∧ a.ticks = 6 := by
  have htargets : (Scheduler.start 500 60 0.25 : Scheduler Float).targets 0.1 = .ok (50, 6) := rfl
  have hticksDue : Scheduler.target ((Scheduler.start 500 60 0.25 : Scheduler Float).moved 0.1).now
      60 = .ok 6 := rfl
  have hfirst : ¬(Scheduler.start 500 60 0.25 : Scheduler Float).tickNext 50 6 = true := by decide
  have htenth : ∀ (k : Scheduler Float) (m : Machine),
      k.advanceBy m (.float 0.1) = k.advance m 0.1 := fun _ _ => rfl
  have hlone : ∀ m : Machine, (m.serve (.load [0x00, 0xEE])).1.cycle.1.halted = true := by
    intro m
    have hcycle : m.run [.load [0x00, 0xEE], .cycle] = (m.serve (.load [0x00, 0xEE])).1.cycle.1 :=
      rfl
    rw [← hcycle, Machine.run_lone_return]
    rfl
  intro s c a
  have hs : Scheduler.ofNumbers (.int 500) (.int 60) (.float 0.25) = .ok s := rfl
  have hc : c = Console.run ⟨.new .full (some 7), s, []⟩ [.call (.load [0x00, 0xEE])] := rfl
  have hmachine : c.machine = ((Machine.new .full (some 7)).serve (.load [0x00, 0xEE])).1 := rfl
  have hm : c.machine.Bounded ∧ c.machine.Recorded :=
    ⟨(Machine.bounded_new .full (some 7)).serve _,
      (Machine.recorded_of_start rfl rfl).serve (Machine.bounded_new .full (some 7)) _⟩
  have hrunning : ¬Driven.isHalted c.machine = true := Bool.false_ne_true
  have hhalted : c.machine.cycle.1.halted = true := by
    rw [hmachine]
    exact hlone (.new .full (some 7))
  have ha : a = _ :=
    (htenth c.scheduler c.machine).trans (Scheduler.advance_eq Machine.reliable hm htargets)
  have hok : a.error? = none := by rw [ha]
  have hcalls : a.calls = [] ++ .cycle c.machine.cycle.2 ::
      Driven.calls c.machine.cycle.1 (s.countSlot.plan 50 6) := by
    have hslots : s.slots 0.1 = .cycle 1 :: s.countSlot.plan 50 6 :=
      (Scheduler.slots_of_targets htargets).trans
        (Scheduler.plan_of_cycle (.inl (by decide)) hfirst)
    rw [ha]
    exact (congrArg (Driven.calls c.machine) hslots).trans (Driven.calls_of_running hrunning 1 _)
  obtain ⟨-, hlast, hadvance⟩ := run_advance_halts hs .full (some 7) [.call (.load [0x00, 0xEE])]
  rw [← hc] at hlast hadvance
  obtain ⟨-, -, hcycle, -, hissued⟩ := hadvance (.float 0.1)
  obtain ⟨-, -, hafter⟩ := hcycle [] _ _ hcalls
  obtain ⟨-, hcount⟩ := hafter hhalted
  obtain ⟨_, due, ticksDue, -, -, hticks, -, -, hticked⟩ := hissued hok
  have hnow : a.scheduler.now = (s.moved 0.1).now := by
    rw [ha]
    rfl
  have hsix : ticksDue = 6 := by
    have h : Scheduler.target a.scheduler.now c.scheduler.timerHz = .ok 6 := by
      rw [hnow]
      exact hticksDue
    exact Except.ok.inj (hticks.symm.trans h)
  refine ⟨hs, hlast, hcount, ?_, ?_⟩
  · rw [ha]
    rfl
  · have hsum : ∀ ticks : Nat, ((0 : Nat) + ticks : Int) = max ((0 : Nat) : Int) 6 → ticks = 6 := by
      omega
    rw [hsix] at hticked
    exact hsum a.ticks hticked

end Console
end Chip8
