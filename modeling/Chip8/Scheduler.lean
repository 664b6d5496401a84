/-
# The scheduler

Two clocks drive a machine, one for its instructions and one for its timers.
The `k`-th cycle falls due at `k / cpuHz` seconds and the `k`-th tick at
`k / timerHz`.  The host says how much time has gone by, and `advance` issues
everything that has fallen due by then, in the order of the instants; of a tick
and a cycle at the same instant the tick comes first.  A host that was away for
long does not make the machine race: no more than `maxCatchUp` seconds count at
a time.

While a machine is halted its cycle slots pass unused and its timers go on.

The scheduler asks little of a machine (`Driven`), and the loop ends whatever
its comparisons yield, because each round issues one thing that was due.

A clock adds up elapsed time, multiplies it by a frequency, and compares the
instants at which work falls due.  It does so in floating point when it runs,
and in exact fractions when its behaviour is reasoned about; the operations it
uses are the fields of `ClockArithmetic`.  Two instants closer than a nanosecond
count as one, and an amount of work that is less than a billionth short of whole
counts as whole: `slack` is that billionth.

A host gives frequencies and elapsed times as numbers of any kind.  Integers are
compared as they are and then brought to floating point; one that is too large
for it is refused, unless it need not be converted because the cap on elapsed
time is smaller.
-/

import Chip8.Machine.Event
import Chip8.Number.Binary64

namespace Chip8

/-! ### Arithmetic of a clock -/

/-- The operations that a clock needs of its numbers. -/
class ClockArithmetic (α : Type) where
  zero : α
  /-- One billionth. -/
  slack : α
  add : α → α → α
  mul : α → α → α
  /-- When the `k`-th event of a frequency falls due: `k / hz`. -/
  due : Nat → α → α
  less : α → α → Bool
  atMost : α → α → Bool
  floor : α → Except FloorError Int

/-- The clock that runs: each operation is rounded to floating point. -/
instance : ClockArithmetic Float where
  zero := 0
  slack := 1e-9
  add := (· + ·)
  mul := (· * ·)
  due k hz := Float.ofNat k / hz
  less x y := x < y
  atMost x y := x ≤ y
  floor x := (Binary64.ofFloat x).floor

/-- The exact clock. -/
instance : ClockArithmetic Rat where
  zero := 0
  slack := 1 / 1000000000
  add := (· + ·)
  mul := (· * ·)
  due k hz := k / hz
  less x y := x < y
  atMost x y := x ≤ y
  floor x := .ok x.floor

/-- The smaller of two numbers, the first one if neither is known to be smaller. -/
def ClockArithmetic.smaller {α : Type} [ClockArithmetic α] (x y : α) : α :=
  if less y x then y else x

/-! ### Two clocks and a machine -/

/-- What a scheduler can do with a machine. -/
class Driven (μ : Type) where
  isHalted : μ → Bool
  tick : μ → μ
  cycle : μ → μ × Except CycleError Snapshot

instance : Driven Machine where
  isHalted m := m.halted
  tick := Machine.tick
  cycle := Machine.cycle

/-- One call on a machine. -/
inductive Call where
  | tick
  | cycle (answer : Except CycleError Snapshot)

/-- Whether a call is one of a cycle. -/
def Call.isCycle : Call → Bool
  | .tick => false
  | .cycle _ => true

/-- Two clocks, how much each has issued, and the last fault that an issued cycle ran into. -/
structure Scheduler (α : Type) where
  cpuHz : α
  timerHz : α
  maxCatchUp : α
  now : α
  cyclesIssued : Nat := 0
  ticksIssued : Nat := 0
  lastFault : Option Fault := none

/-- Why a scheduler cannot be made. -/
inductive SchedulerError where
  | frequency
  | catchUp
  /-- An integer is too large for floating point. -/
  | tooLarge
  deriving DecidableEq, Repr

/-- The wording of the refusal. -/
def SchedulerError.message : SchedulerError → String
  | .frequency => "Clock frequencies must be positive."
  | .catchUp => "max_catch_up must be positive."
  | .tooLarge => Number.tooLarge

/-- Why a scheduler does not advance, or not to the end. -/
inductive AdvanceError where
  | negative
  /-- The time is so large, or so little of a number, that nothing can be counted. -/
  | floor (e : FloorError)
  /-- An integer is too large for floating point. -/
  | tooLarge
  /-- A cycle broke off. -/
  | cycle (e : CycleError)
  deriving DecidableEq, Repr

/-- The wording of the refusal. -/
def AdvanceError.message : AdvanceError → String
  | .negative => "Elapsed time must not be negative."
  | .floor e => e.message
  | .tooLarge => Number.tooLarge
  | .cycle e => e.error.message

/-- What became of an advance. -/
@[ext]
structure Advance (α μ : Type) where
  scheduler : Scheduler α
  machine : μ
  /-- The number of cycles that were carried out. -/
  cycles : Nat
  /-- The number of ticks. -/
  ticks : Nat
  /-- The calls on the machine, in order. -/
  calls : List Call
  /-- Why it broke off, if it did. -/
  error? : Option AdvanceError

namespace Advance

variable {α μ : Type}

/-- An advance that is refused before it has made a call. -/
def refused (s : Scheduler α) (m : μ) (e : AdvanceError) : Advance α μ := ⟨s, m, 0, 0, [], some e⟩

variable (s : Scheduler α) (m : μ) (e : AdvanceError)

@[simp] theorem refused_scheduler : (refused s m e).scheduler = s := rfl

@[simp] theorem refused_machine : (refused s m e).machine = m := rfl

@[simp] theorem refused_calls : (refused s m e).calls = [] := rfl

end Advance

namespace Scheduler

variable {α μ : Type}

/-- A scheduler at time zero that has issued nothing. -/
def start [ClockArithmetic α] (cpuHz timerHz maxCatchUp : α) : Scheduler α :=
  { cpuHz, timerHz, maxCatchUp, now := ClockArithmetic.zero }

/-- Back to time zero. -/
def reset [ClockArithmetic α] (s : Scheduler α) : Scheduler α :=
  start s.cpuHz s.timerHz s.maxCatchUp

/-- Whether a tick is to be issued next, rather than a cycle slot. -/
def tickNext [ClockArithmetic α] (s : Scheduler α) (cycleTarget tickTarget : Nat) : Bool :=
  let nextCycle := ClockArithmetic.due (s.cyclesIssued + 1) s.cpuHz
  let nextTick := ClockArithmetic.due (s.ticksIssued + 1) s.timerHz
  decide (s.ticksIssued < tickTarget) &&
    (!decide (s.cyclesIssued < cycleTarget) ||
      ClockArithmetic.atMost nextTick (ClockArithmetic.add nextCycle ClockArithmetic.slack))

/-- A tick is issued only while ticks are due. -/
theorem lt_of_tickNext [ClockArithmetic α] (s : Scheduler α) {cycleTarget tickTarget : Nat}
    (h : s.tickNext cycleTarget tickTarget = true) : s.ticksIssued < tickTarget := by
  simp only [tickNext, Bool.and_eq_true, decide_eq_true_eq] at h
  exact h.1

/-- A cycle slot is issued only while cycle slots are due. -/
theorem lt_of_not_tickNext [ClockArithmetic α] (s : Scheduler α) {cycleTarget tickTarget : Nat}
    (due : s.cyclesIssued < cycleTarget ∨ s.ticksIssued < tickTarget)
    (h : ¬s.tickNext cycleTarget tickTarget = true) : s.cyclesIssued < cycleTarget := by
  rcases due with hc | ht
  · exact hc
  · by_cases hc : s.cyclesIssued < cycleTarget
    · exact hc
    · simp [tickNext, ht, hc] at h

/-- One more tick is issued. -/
def countTick (s : Scheduler α) : Scheduler α := { s with ticksIssued := s.ticksIssued + 1 }

/-- One more cycle slot is issued. -/
def countSlot (s : Scheduler α) : Scheduler α := { s with cyclesIssued := s.cyclesIssued + 1 }

/-- The fault of an issued cycle goes on record; a cycle without one leaves the record alone. -/
def record (s : Scheduler α) (fault : Option Fault) : Scheduler α :=
  { s with lastFault := fault.or s.lastFault }

/-- Issues ticks and cycle slots until both counters have reached their targets.  `cycles` and
`ticks` count what this advance has carried out so far, and `calls` are the calls it has made, last
one first.  A cycle that breaks off is called, but it is not counted. -/
def issue [ClockArithmetic α] [Driven μ] (s : Scheduler α) (m : μ) (cycleTarget tickTarget : Nat)
    (cycles ticks : Nat) (calls : List Call) : Advance α μ :=
  if _due : s.cyclesIssued < cycleTarget ∨ s.ticksIssued < tickTarget then
    if _tick : s.tickNext cycleTarget tickTarget = true then
      issue s.countTick (Driven.tick m) cycleTarget tickTarget cycles (ticks + 1) (.tick :: calls)
    else if Driven.isHalted m then issue s.countSlot m cycleTarget tickTarget cycles ticks calls
    else
      match Driven.cycle m with
      | (m, .error e) =>
        ⟨s.countSlot, m, cycles, ticks, (.cycle (.error e) :: calls).reverse, some (.cycle e)⟩
      | (m, .ok snapshot) =>
        issue (s.countSlot.record snapshot.fault) m cycleTarget tickTarget (cycles + 1) ticks
          (.cycle (.ok snapshot) :: calls)
  else ⟨s, m, cycles, ticks, calls.reverse, none⟩
termination_by (cycleTarget - s.cyclesIssued) + (tickTarget - s.ticksIssued)
decreasing_by
  · have h := s.lt_of_tickNext _tick
    simp only [countTick]; omega
  · have h := s.lt_of_not_tickNext _due _tick
    simp only [countSlot]; omega
  · have h := s.lt_of_not_tickNext _due _tick
    simp only [countSlot, record]; omega

/-- The number of events of a frequency that have fallen due by a time. -/
def target [ClockArithmetic α] (now hz : α) : Except FloorError Int :=
  ClockArithmetic.floor (ClockArithmetic.add (ClockArithmetic.mul now hz) ClockArithmetic.slack)

/-- Lets time go by and issues what falls due. -/
def advance [ClockArithmetic α] [Driven μ] (s : Scheduler α) (m : μ) (elapsed : α) :
    Advance α μ :=
  if ClockArithmetic.less elapsed ClockArithmetic.zero then .refused s m .negative
  else
    let counted := ClockArithmetic.smaller elapsed s.maxCatchUp
    let s := { s with now := ClockArithmetic.add s.now counted }
    match target s.now s.cpuHz, target s.now s.timerHz with
    | .error e, _ => .refused s m (.floor e)
    | _, .error e => .refused s m (.floor e)
    | .ok cycleTarget, .ok tickTarget => s.issue m cycleTarget.toNat tickTarget.toNat 0 0 []

end Scheduler

/-! ### Schedulers for hosts -/

/-- Cycles a second, unless a host asks for something else. -/
def defaultCpuHz : Float := 500

/-- Ticks a second, unless a host asks for something else. -/
def defaultTimerHz : Float := 60

/-- The most seconds that count at a time, unless a host asks for something else. -/
def defaultMaxCatchUp : Float := 0.25

namespace Scheduler

/-- A scheduler with the given frequencies and cap, which must be positive. -/
def ofNumbers (cpuHz timerHz maxCatchUp : Number) : Except SchedulerError (Scheduler Float) :=
  if cpuHz.notPositive || timerHz.notPositive then .error .frequency
  else if maxCatchUp.notPositive then .error .catchUp
  else match cpuHz.toFloat?, timerHz.toFloat?, maxCatchUp.toFloat? with
    | some cpuHz, some timerHz, some maxCatchUp => .ok (start cpuHz timerHz maxCatchUp)
    | _, _, _ => .error .tooLarge

/-- Lets a number of seconds go by. -/
def advanceBy {μ : Type} [Driven μ] (s : Scheduler Float) (m : μ) (elapsed : Number) :
    Advance Float μ :=
  if elapsed.negative then .refused s m .negative
  else match elapsed.toFloat? with
    | some x => s.advance m x
    | none =>
      if s.maxCatchUp.isFinite then s.advance m s.maxCatchUp
      else .refused s m .tooLarge

end Scheduler

/-- The events of a call on a machine, as a scheduler makes it. -/
def Event.ofCall : Call → List Event
  | .tick => []
  | .cycle answer =>
    Event.ofCycle answer ++
      match answer with
      | .ok ⟨_, _, some fault⟩ => [.faultScheduled fault]
      | _ => []

end Chip8
