/-
# The law of the timers

Both timers count down on their own.  What a call of the host comes to for one of
them is one of three things (`Timing`): it sets the timer, to zero if the machine
starts over and to the content of a register if the cycle carries out the
instruction that sets this timer; it is a tick; or it has nothing to do with the
timer.  A session is for each timer a row of such things (`Machine.timings`), and
the rows of the two timers have only the ticks and the new starts in common.

A timer is always what its row says: the value that was set last, less the ticks
since, and zero once the ticks have used it up (`run_new_timers`).  A halted or a
waiting machine carries out no instruction, so it sets no timer, but its ticks count
as ever.
-/

import Chip8.Proofs.Stores

namespace Chip8

/-- One of the two timers. -/
inductive Timer where
  | delay
  | sound
  deriving DecidableEq, Repr

/-- The kind of instruction that sets a timer. -/
def Timer.setter : Timer → Kind
  | .delay => .setDelay
  | .sound => .setSound

/-- What a timer shows. -/
def Timers.count (t : Timers) : Timer → Int
  | .delay => t.delay
  | .sound => t.sound

/-- A tick counts both timers down in the same way. -/
theorem Timers.count_tick (t : Timers) (timer : Timer) :
    t.tick.count timer = countDown (t.count timer) := by
  cases timer <;> rfl

/-- What a call of the host comes to for one of the timers. -/
inductive Timing where
  /-- The timer is set. -/
  | set (b : UInt8)
  | tick
  /-- Nothing. -/
  | idle
  deriving DecidableEq, Repr

namespace Timing

/-- What a timer that showed a number shows afterwards. -/
def after (n : Int) : Timing → Int
  | .set b => b.toNat
  | .tick => Timers.countDown n
  | .idle => n

/-- The value that a timer is set to. -/
def set? : Timing → Option UInt8
  | .set b => some b
  | .tick | .idle => none

/-- The value that was set last: zero, if none ever was. -/
def lastSet (row : List Timing) : UInt8 := (row.reverse.findSome? set?).getD 0

/-- The number of ticks since a value was set. -/
def ticksSinceSet (row : List Timing) : Nat :=
  (row.reverse.takeWhile fun t => t.set?.isNone).count .tick

/-- What a timer was last set to is what the last call that sets it has set. -/
theorem lastSet_append (row : List Timing) (t : Timing) :
    lastSet (row ++ [t]) = t.set?.getD (lastSet row) := by
  rw [lastSet, List.reverse_append, List.reverse_singleton, List.singleton_append,
    List.findSome?_cons]
  cases t.set? <;> rfl

/-- When a timer is set, no tick has gone by since. -/
theorem ticksSinceSet_append_set (row : List Timing) (b : UInt8) :
    ticksSinceSet (row ++ [.set b]) = 0 := by
  rw [ticksSinceSet, List.reverse_append, List.reverse_singleton, List.singleton_append,
    List.takeWhile_cons_of_neg (by simp [set?]), List.count_nil]

/-- Else a tick is one more that has gone by, and all other calls leave the number. -/
theorem ticksSinceSet_append {t : Timing} (ht : t.set? = none) (row : List Timing) :
    ticksSinceSet (row ++ [t]) = ticksSinceSet row + [t].count .tick := by
  rw [ticksSinceSet, List.reverse_append, List.reverse_singleton, List.singleton_append,
    List.takeWhile_cons_of_pos (by rw [ht]; rfl), ← List.singleton_append, List.count_append,
    Nat.add_comm, ticksSinceSet]

/-- **The law of a timer.**  A timer that starts at zero shows the value that was set last, less the
ticks since, as long as they leave something of it. -/
theorem foldl_after (row : List Timing) :
    row.foldl after 0 = max 0 ((lastSet row).toNat - ticksSinceSet row : Int) := by
  induction row using List.reverseRecOn with
  | nil => rfl
  | append_singleton row t ih =>
    rw [List.foldl_append, ih, List.foldl_cons, List.foldl_nil, lastSet_append]
    cases t with
    | set b =>
      rw [ticksSinceSet_append_set, after, set?, Option.getD_some]
      omega
    | tick =>
      rw [ticksSinceSet_append rfl, after, Timers.countDown_of_nonneg (Int.le_max_left _ _),
        List.count_singleton_self, set?, Option.getD_none]
      omega
    | idle =>
      rw [ticksSinceSet_append rfl, after, List.count_singleton, if_neg (by decide), set?,
        Option.getD_none]
      rfl

example : [Timing.set 5, .tick, .idle, .tick].foldl after 0 = 3 := by decide

end Timing

namespace Machine

variable {m : Machine} {ins : Instruction}

/-- What a call comes to for one of the timers, read off the instruction that a cycle tells of. -/
def timing (timer : Timer) (m : Machine) : HostCall → Timing
  | .tick => .tick
  | .cycle =>
    match m.nextActivity.instruction? with
    | some ins => if ins.kind = timer.setter then .set (m.regs.get ins.x) else .idle
    | none => .idle
  | c => if c.startsOver then .set 0 else .idle

/-- What the calls of a session come to for one of the timers, from the first to the last. -/
def timings (timer : Timer) (m : Machine) : List HostCall → List Timing
  | [] => []
  | c :: calls => m.timing timer c :: (m.serve c).1.timings timer calls

/-! ### One call -/

/-- An instruction sets a timer if it is of the kind that does, and else it leaves it alone. -/
theorem count_execute (m : Machine) (ins : Instruction) (timer : Timer) :
    (m.execute ins).1.timers.count timer =
      if ins.kind = timer.setter then ((m.regs.get ins.x).toNat : Int)
      else m.timers.count timer := by
  have hfoot := m.execute_footprint ins
  split
  case isTrue hk =>
    cases timer with
    | delay =>
      have hkind : ins.kind = .setDelay := hk
      simp only [execute, hkind]
      rfl
    | sound =>
      have hkind : ins.kind = .setSound := hk
      simp only [execute, hkind]
      rfl
  case isFalse hk =>
    cases timer with
    | delay => exact hfoot.delay (mt List.mem_singleton.1 hk)
    | sound => exact hfoot.sound (mt List.mem_singleton.1 hk)

/-- A cycle sets the timers that its instruction sets. -/
theorem count_cycle (m : Machine) (timer : Timer) :
    m.cycle.1.timers.count timer = (m.timing timer .cycle).after (m.timers.count timer) := by
  rw [timing, instruction?_nextActivity]
  rcases m.cycle_footprint with ⟨hidle, regs, cycles, hcycle⟩ |
    ⟨hdue, halted, fault, faultText, cycles, hcycle⟩
  · rw [hcycle, hidle]
    rfl
  · have hset := (m.past m.nextInstruction).count_execute m.nextInstruction timer
    rw [hcycle, hdue, hset]
    by_cases hk : m.nextInstruction.kind = timer.setter
    · simp only [if_pos hk]
      rfl
    · simp only [if_neg hk]
      rfl

/-- **What a call makes of a timer** is what it comes to for the timer. -/
theorem count_serve (m : Machine) (c : HostCall) (timer : Timer) :
    (m.serve c).1.timers.count timer = (m.timing timer c).after (m.timers.count timer) := by
  cases c with
  | cycle => exact m.count_cycle timer
  | tick => exact m.timers.count_tick timer
  | load program =>
    rcases m.serve_cases (.load program) with ⟨hc, memory, programSize, -, hserve⟩ | hc | ⟨hc, -⟩
    · have hset : m.timing timer (.load program) = .set 0 := if_pos hc
      rw [hserve, hset]
      cases timer <;> rfl
    · cases hc
    · have hidle : m.timing timer (.load program) = .idle := if_neg (ne_true_of_eq_false hc)
      rw [m.serve_load_of_not_startsOver hc, hidle]
      rfl
  | reset => cases timer <;> rfl
  | keyDown code =>
    rcases serve_keyDown code with ⟨e, he⟩ | ⟨key, hkey⟩
    · rw [he]
      rfl
    · rw [hkey]
      rfl
  | keyUp code =>
    rcases serve_keyUp code with ⟨e, he⟩ | ⟨key, hkey⟩
    · rw [he]
      rfl
    · rw [hkey]
      rfl
  | togglePixel x y =>
    rcases serve_togglePixel x y with ⟨e, he⟩ | ⟨p, hp⟩
    · rw [he]
      rfl
    · rw [hp]
      rfl
  | releaseKeys | takeDirty | frame | clearScreen => rfl

/-! ### Sessions -/

/-- A timer goes through a session as through the row of what the calls come to for it. -/
theorem count_run (m : Machine) (calls : List HostCall) (timer : Timer) :
    (m.run calls).timers.count timer =
      (m.timings timer calls).foldl Timing.after (m.timers.count timer) := by
  induction calls generalizing m with
  | nil => rfl
  | cons c calls ih => rw [run_cons, ih, m.count_serve c timer, timings, List.foldl_cons]

/-- A cycle that reads the delay timer puts what it shows in the register. -/
theorem get_cycle_of_readDelay (hb : m.Bounded) (hdue : m.due? = some ins)
    (hk : ins.kind = .readDelay) :
    ((m.cycle.1.regs.get ins.x).toNat : Int) = m.timers.count .delay := by
  rcases m.cycle_footprint with ⟨hidle, -⟩ | ⟨hnext, halted, fault, faultText, cycles, hcycle⟩
  · rw [hdue] at hidle
    cases hidle
  · obtain rfl : m.nextInstruction = ins := Option.some.inj (hnext.symm.trans hdue)
    have hget : m.cycle.1.regs.get m.nextInstruction.x = UInt8.ofInt m.timers.delay := by
      rw [hcycle]
      simp only [execute, hk]
      exact Registers.get_set_self _ _ _
    rw [hget, hb.timers.toNat_delay, Timers.count]

/-- **The law of the timers.**  At the end of any session with a new machine, each timer shows
`max 0 (s - t)`: `s` is the value that it was last set to, be it zero by a new start or the content
of a register by the instruction that sets this timer, and `t` is the number of ticks since then.
An instruction that reads the delay timer finds this value there. -/
theorem run_new_timers (keyScan : KeyScan) (seed : Option Int) (calls : List HostCall) :
    let m := (new keyScan seed).run calls
    let law := fun timer =>
      let row := (new keyScan seed).timings timer calls
      max 0 ((Timing.lastSet row).toNat - Timing.ticksSinceSet row : Int)
    m.timers.delay = law .delay ∧ m.timers.sound = law .sound ∧
      ∀ ins, m.nextActivity.instruction? = some ins → ins.kind = .readDelay →
        ((m.cycle.1.regs.get ins.x).toNat : Int) = law .delay := by
  intro m law
  have hlaw : ∀ timer, m.timers.count timer = law timer := by
    intro timer
    have hstart : (new keyScan seed).timers.count timer = 0 := by cases timer <;> rfl
    rw [count_run, hstart]
    exact Timing.foldl_after _
  refine ⟨hlaw .delay, hlaw .sound, fun ins hins hk => ?_⟩
  have hb : m.Bounded := (bounded_new keyScan seed).run calls
  rw [instruction?_nextActivity] at hins
  rw [get_cycle_of_readDelay hb hins hk]
  exact hlaw .delay

end Machine
end Chip8
