/-
# How a host splits its time

A host may let time go by in many small turns or in a few large ones.  What is
issued in the end is the same, but in which order?  Within one advance the
instants decide, with ties and near ties in favour of the ticks.  Slots of
different advances are issued in the order in which they came to count as due.
The two agree at `Steady` rates, and then the host's turns leave no trace in the
calls (`calls_eq_of_steady`).

They do not always agree.  A slot counts as due when the count of its clock is
within a billionth of its number, while a tick goes ahead of the cycle slots of
the last billionth of a second.  If the timer is the faster clock, a tick and a
cycle slot of the same instant are not due at the same time: the slot can be
caught by an advance that ends just too early for the tick (`calls_reordered`).
Rates at which no two turns can be told from one are exactly the steady ones
(`calls_eq_iff_steady`); of whole rates these are the ones with a timer that is
not the faster clock (`steady_natCast_iff`).
-/

import Mathlib.Data.List.Perm.Basic
import Chip8.Proofs.Timing

namespace Chip8

/-- A turn in which a host does nothing but let time go by. -/
def Turn.wait {α μ : Type} (elapsed : α) : Turn α μ := ⟨id, elapsed⟩

/-- While a host only waits, it does nothing to its machine. -/
theorem Turn.handle_of_mem_wait {α μ : Type} {P : μ → Prop} {times : List α} {turn : Turn α μ}
    (h : turn ∈ times.map Turn.wait) (m : μ) (hm : P m) : P (turn.handle m) := by
  obtain ⟨e, -, rfl⟩ := List.mem_map.1 h
  exact hm

/-- A machine that is never halted and does nothing.  Of interest is only when it is called. -/
structure Metronome where

instance : Driven Metronome where
  isHalted _ := false
  tick m := m
  cycle m := (m, .ok { count := 0, activity := .halted 0, fault := none })

/-- A metronome never breaks off a cycle. -/
theorem Metronome.reliable : Driven.Reliable fun _ : Metronome => True where
  tick _ h := h
  cycle _ h := h
  answered _ _ := ⟨_, rfl⟩

namespace Slot

variable {cpuHz timerHz : ℚ}

/-- Whether a slot is a cycle slot. -/
def isCycle : Slot → Bool
  | .tick _ => false
  | .cycle _ => true

/-- Rows of slots that are numbered alike are told apart by the kinds of their slots. -/
theorem eq_of_map_isCycle_eq {slots more : List Slot}
    (hkinds : slots.map isCycle = more.map isCycle)
    (hticks : slots.filterMap tick? = more.filterMap tick?)
    (hcycles : slots.filterMap cycle? = more.filterMap cycle?) : slots = more := by
  induction slots generalizing more with
  | nil => exact (List.map_eq_nil_iff.1 hkinds.symm).symm
  | cons slot slots ih =>
    cases more with
    | nil => cases hkinds
    | cons other more =>
      obtain ⟨hkind, hrest⟩ : slot.isCycle = other.isCycle ∧ slots.map isCycle = more.map isCycle :=
        List.cons.inj hkinds
      cases slot with
      | tick j =>
        cases other with
        | tick i =>
          obtain ⟨hnumber, hticks⟩ := List.cons.inj hticks
          rw [hnumber, ih hrest hticks hcycles]
        | cycle l => cases hkind
      | cycle k =>
        cases other with
        | tick i => cases hkind
        | cycle l =>
          obtain ⟨hnumber, hcycles⟩ := List.cons.inj hcycles
          rw [hnumber, ih hrest hticks hcycles]

end Slot

/-- **Steady rates**: a slot that comes to count as due before another is also issued before it
when both are issued together. -/
def Steady (cpuHz timerHz : ℚ) : Prop :=
  ∀ a b : Slot, 0 < a.dueAt cpuHz timerHz → a.dueAt cpuHz timerHz < b.dueAt cpuHz timerHz →
    a.Precedes cpuHz timerHz b

/-- Different instants of whole rates lie apart by no less than a common part of a second. -/
theorem div_add_le_div_of_lt {cpuHz timerHz k j : ℕ} (hcpu : (0 : ℚ) < cpuHz)
    (htimer : (0 : ℚ) < timerHz) (h : (k : ℚ) / cpuHz < j / timerHz) :
    (k : ℚ) / cpuHz + 1 / (cpuHz * timerHz) ≤ j / timerHz := by
  have hproducts : (k : ℚ) * timerHz < j * cpuHz := (div_lt_div_iff₀ hcpu htimer).1 h
  have hwhole : (k : ℚ) * timerHz + 1 ≤ j * cpuHz := by
    have hlt : k * timerHz < j * cpuHz := by exact_mod_cast hproducts
    exact_mod_cast hlt
  calc (k : ℚ) / cpuHz + 1 / (cpuHz * timerHz)
    _ = (k * timerHz + 1) / (cpuHz * timerHz) := by field_simp
    _ ≤ (j * cpuHz) / (cpuHz * timerHz) :=
      div_le_div_of_nonneg_right hwhole (mul_pos hcpu htimer).le
    _ = j / timerHz := by field_simp

/-- Steady whole rates do not have the timer as the faster clock: the slots with the numbers `cpuHz`
and `timerHz` fall on one instant, at one second, and of the two the cycle slot would come to count
as due first, but be issued second. -/
theorem Steady.timerHz_le {cpuHz timerHz : ℕ} (hcpu : 0 < cpuHz) (htimer : 0 < timerHz)
    (h : Steady cpuHz timerHz) : timerHz ≤ cpuHz := by
  have hC : (0 : ℚ) < cpuHz := Nat.cast_pos.2 hcpu
  have hT : (0 : ℚ) < timerHz := Nat.cast_pos.2 htimer
  by_contra hlt
  have hslack : billionth / timerHz < billionth / cpuHz :=
    div_lt_div_of_pos_left billionth_pos hC (Nat.cast_lt.2 (not_le.1 hlt))
  have hpositive : billionth / cpuHz < 1 := by
    have hone : (1 : ℚ) ≤ cpuHz := Nat.one_le_cast.2 hcpu
    rw [div_lt_one hC]
    exact billionth_lt_one.trans_le hone
  have hprecedes := h (.cycle cpuHz) (.tick timerHz)
  simp only [Slot.dueAt, Slot.Precedes, sub_div, div_self hC.ne', div_self hT.ne'] at hprecedes
  have hafter : 1 + billionth < (1 : ℚ) := hprecedes (by linarith) (by linarith)
  linarith [billionth_pos]

/-- Whole rates with a timer that is not the faster clock are steady, unless they are enormous. -/
theorem steady_of_le {cpuHz timerHz : ℕ} (hcpu : 0 < cpuHz) (htimer : 0 < timerHz)
    (hrates : cpuHz * timerHz < 1000000000) (hle : timerHz ≤ cpuHz) : Steady cpuHz timerHz := by
  have hC : (0 : ℚ) < cpuHz := Nat.cast_pos.2 hcpu
  have hT : (0 : ℚ) < timerHz := Nat.cast_pos.2 htimer
  have hslack : billionth / cpuHz ≤ billionth / timerHz :=
    div_le_div_of_nonneg_left billionth_pos.le hT (Nat.cast_le.2 hle)
  intro a b ha hab
  cases a with
  | tick i =>
    cases b with
    | tick j =>
      rw [Slot.dueAt, Slot.dueAt, div_lt_div_iff_of_pos_right hT, sub_lt_sub_iff_right] at hab
      exact Nat.cast_lt.1 hab
    | cycle k =>
      have hone : (1 : ℚ) ≤ timerHz := Nat.one_le_cast.2 htimer
      have hsmall : billionth / timerHz ≤ billionth := div_le_self billionth_pos.le hone
      have hpositive : 0 < billionth / cpuHz := div_pos billionth_pos hC
      rw [Slot.dueAt, Slot.dueAt, sub_div, sub_div] at hab
      rw [Slot.Precedes]
      linarith
  | cycle k =>
    cases b with
    | tick j =>
      -- The instants differ, and by more than the billionth that would hide it.
      rw [Slot.dueAt, Slot.dueAt, sub_div, sub_div] at hab
      have hapart := div_add_le_div_of_lt hC hT (k := k) (j := j) (by linarith)
      have hmore : billionth < 1 / (cpuHz * timerHz) :=
        one_div_lt_one_div_of_lt (mul_pos hC hT) (by exact_mod_cast hrates)
      rw [Slot.Precedes]
      linarith
    | cycle l =>
      rw [Slot.dueAt, Slot.dueAt, div_lt_div_iff_of_pos_right hC, sub_lt_sub_iff_right] at hab
      exact Nat.cast_lt.1 hab

/-- Of rates in whole numbers whose product is below a billion, those are steady of which the
timer's is not the higher one. -/
theorem steady_natCast_iff {cpuHz timerHz : ℕ} (hcpu : 0 < cpuHz) (htimer : 0 < timerHz)
    (hrates : cpuHz * timerHz < 1000000000) : Steady cpuHz timerHz ↔ timerHz ≤ cpuHz :=
  ⟨fun h => h.timerHz_le hcpu htimer, steady_of_le hcpu htimer hrates⟩

namespace Driven

variable {μ : Type} [Driven μ] {P : μ → Prop}

/-- A machine that is never halted is called at every slot. -/
theorem map_isCycle_calls (hP : Reliable P) (hlive : ∀ m, P m → isHalted m = false) {m : μ}
    (hm : P m) (slots : List Slot) :
    (calls m slots).map Call.isCycle = slots.map Slot.isCycle := by
  induction slots generalizing m with
  | nil => rfl
  | cons slot slots ih =>
    cases slot with
    | tick j =>
      rw [calls_tick, List.map_cons, List.map_cons, ih (hP.tick m hm)]
      rfl
    | cycle k =>
      have hh : ¬isHalted m = true := by rw [hlive m hm]; exact Bool.false_ne_true
      rw [calls_of_running hh, List.map_cons, List.map_cons, ih (hP.cycle m hm)]
      rfl

end Driven

namespace Scheduler

variable {μ : Type} [Driven μ] {P : μ → Prop} {m : μ} {s : Scheduler ℚ}
  {cpuHz timerHz maxCatchUp time : ℚ}

/-- What becomes of a host that only waits. -/
def wait (s : Scheduler ℚ) (m : μ) (times : List ℚ) : Drive ℚ μ :=
  s.drive m (times.map Turn.wait)

/-- A host that only waits leaves the machine to the scheduler, and it meets the slots in their
order. -/
theorem calls_wait (hP : Driven.Reliable P) (s : Scheduler ℚ) (hm : P m) (times : List ℚ) :
    (s.wait m times).calls =
      Driven.calls m (s.wait m times).slots := by
  induction times generalizing s m with
  | nil => rfl
  | cons elapsed times ih =>
    let a := s.advance m elapsed
    let rest := a.scheduler.wait a.machine times
    have hrest : rest.calls = Driven.calls a.machine rest.slots :=
      ih a.scheduler (machine_advance_of_reliable hP s hm elapsed)
    have hmachine : a.machine = Driven.after m (s.slots elapsed) := machine_advance hP hm
    have hcalls : a.calls = Driven.calls m (s.slots elapsed) := calls_advance hP hm
    calc (s.wait m (elapsed :: times)).calls
      _ = a.calls ++ rest.calls := rfl
      _ = Driven.calls m (s.slots elapsed) ++
          Driven.calls (Driven.after m (s.slots elapsed)) rest.slots := by
        rw [hrest, hcalls, hmachine]
      _ = Driven.calls m (s.slots elapsed ++ rest.slots) := (Driven.calls_append m _ _).symm

/-- What is issued while a host waits leads from the counters before to those after. -/
theorem issues_wait (hP : Driven.Reliable P) (s : Scheduler ℚ) (hm : P m) (times : List ℚ) :
    s.Issues (s.wait m times).slots (s.wait m times).scheduler :=
  issues_drive hP s hm fun _ => Turn.handle_of_mem_wait

/-- A time below the cap counts in full. -/
theorem OnTime.advance_of_le (hP : Driven.Reliable P) (hm : P m)
    (h : OnTime cpuHz timerHz maxCatchUp time s) {e : ℚ} (he : 0 ≤ e) (hle : e ≤ maxCatchUp) :
    OnTime cpuHz timerHz maxCatchUp (time + e) (s.advance m e).scheduler := by
  have hadvance := h.advance hP hm he
  rwa [min_eq_left hle] at hadvance

/-- A scheduler that is on time stays on time while its host waits. -/
theorem OnTime.wait (hP : Driven.Reliable P) (hm : P m)
    (h : OnTime cpuHz timerHz maxCatchUp time s) {times : List ℚ}
    (htimes : ∀ e ∈ times, 0 ≤ e ∧ e ≤ maxCatchUp) :
    OnTime cpuHz timerHz maxCatchUp (time + times.sum)
      (s.wait m times).scheduler := by
  have hturns : ∀ turn ∈ times.map (Turn.wait : ℚ → Turn ℚ μ),
      0 ≤ turn.elapsed ∧ ∀ m, P m → P (turn.handle m) := by
    intro turn hturn
    refine ⟨?_, Turn.handle_of_mem_wait hturn⟩
    obtain ⟨e, he, rfl⟩ := List.mem_map.1 hturn
    exact (htimes e he).1
  have hcounted : ((times.map Turn.wait).map fun turn : Turn ℚ μ => min turn.elapsed maxCatchUp) =
      times := by
    rw [List.map_map]
    exact (List.map_congr_left fun e he => min_eq_left (htimes e he).2).trans (List.map_id times)
  have hdrive := h.drive hP hm hturns
  rwa [hcounted] at hdrive

/-- **What a row of advances issues is what falls due meanwhile.** -/
theorem OnTime.mem_wait (hP : Driven.Reliable P) (hm : P m)
    (h : OnTime cpuHz timerHz maxCatchUp time s) {times : List ℚ}
    (htimes : ∀ e ∈ times, 0 ≤ e ∧ e ≤ maxCatchUp) {slot : Slot} :
    slot ∈ (s.wait m times).slots ↔
      time < slot.dueAt cpuHz timerHz ∧ slot.dueAt cpuHz timerHz ≤ time + times.sum := by
  exact h.mem_iff_dueAt (h.wait hP hm htimes) (issues_wait hP s hm times)

/-- A slot that is due by the end of an advance stands before one that is not. -/
theorem OnTime.pair_sublist_wait (hP : Driven.Reliable P) (hm : P m)
    (h : OnTime cpuHz timerHz maxCatchUp time s) {e : ℚ} {times : List ℚ}
    (htimes : ∀ x ∈ e :: times, 0 ≤ x ∧ x ≤ maxCatchUp) {a b : Slot}
    (ha : time < a.dueAt cpuHz timerHz) (hend : a.dueAt cpuHz timerHz ≤ time + e)
    (hb : time + e < b.dueAt cpuHz timerHz)
    (hlast : b.dueAt cpuHz timerHz ≤ time + e + times.sum) :
    [a, b].Sublist (s.wait m (e :: times)).slots := by
  obtain ⟨⟨he, hle⟩, htimes⟩ := List.forall_mem_cons.1 htimes
  have hnext := h.advance_of_le hP hm he hle
  have hleft := machine_advance_of_reliable hP s hm e
  have hfirst : a ∈ s.slots e :=
    (h.mem_iff_dueAt hnext (issues_advance hP hm)).2 ⟨ha, hend⟩
  have hsecond : b ∈ ((s.advance m e).scheduler.wait (s.advance m e).machine times).slots :=
    (hnext.mem_wait hP hleft htimes).2 ⟨hb, hlast⟩
  exact (List.singleton_sublist.2 hfirst).append (List.singleton_sublist.2 hsecond)

/-- **At steady rates the slots come in one order**, whatever the advances that issued them: within
one advance the order is that of `Slot.Precedes`, and what is issued later came to count as due
later. -/
theorem OnTime.pairwise_wait (hsteady : Steady cpuHz timerHz) (hP : Driven.Reliable P)
    (hm : P m) (htime : 0 ≤ time) (h : OnTime cpuHz timerHz maxCatchUp time s) {times : List ℚ}
    (htimes : ∀ e ∈ times, 0 ≤ e ∧ e ≤ maxCatchUp) :
    (s.wait m times).slots.Pairwise (Slot.Precedes cpuHz timerHz) := by
  induction times generalizing s m time with
  | nil => exact List.Pairwise.nil
  | cons e times ih =>
    obtain ⟨⟨he, hle⟩, htimes⟩ := List.forall_mem_cons.1 htimes
    have hnext := h.advance_of_le hP hm he hle
    have hleft : P (s.advance m e).machine := machine_advance_of_reliable hP s hm e
    have hfirst : (s.slots e).Pairwise (Slot.Precedes cpuHz timerHz) := h.pairwise_slots e
    have hrest := ih hleft (by linarith) hnext htimes
    refine List.pairwise_append.2 ⟨hfirst, hrest, fun a ha b hb => ?_⟩
    obtain ⟨hafter, hbefore⟩ := (h.mem_iff_dueAt hnext (issues_advance hP hm)).1 ha
    obtain ⟨hlater, -⟩ := (hnext.mem_wait hP hleft htimes).1 hb
    exact hsteady a b (htime.trans_lt hafter) (hbefore.trans_lt hlater)

/-- **At steady rates the turns of the host leave no trace**: the calls on the machine are up to the
time that has gone by. -/
theorem calls_eq_of_steady (hsteady : Steady cpuHz timerHz) (hcpu : 0 < cpuHz)
    (htimer : 0 < timerHz) (hcap : 0 < maxCatchUp) (hP : Driven.Reliable P) (hm : P m)
    {whole parts : List ℚ} (hwhole : ∀ e ∈ whole, 0 ≤ e ∧ e ≤ maxCatchUp)
    (hparts : ∀ e ∈ parts, 0 ≤ e ∧ e ≤ maxCatchUp) (hsum : whole.sum = parts.sum) :
    ((start cpuHz timerHz maxCatchUp).wait m whole).calls =
      ((start cpuHz timerHz maxCatchUp).wait m parts).calls := by
  have hstart := onTime_start hcpu htimer hcap
  have hsorted := fun {times : List ℚ} (htimes : ∀ e ∈ times, 0 ≤ e ∧ e ≤ maxCatchUp) =>
    hstart.pairwise_wait hsteady hP hm le_rfl htimes
  have hne : ∀ {a b : Slot}, a.Precedes cpuHz timerHz b → a ≠ b := by
    rintro a _ hab rfl
    exact hab.asymm hab
  have hslots : ((start cpuHz timerHz maxCatchUp).wait m whole).slots =
      ((start cpuHz timerHz maxCatchUp).wait m parts).slots := by
    refine List.Perm.eq_of_pairwise (fun a b _ _ hab hba => absurd hba hab.asymm)
      (hsorted hwhole) (hsorted hparts) ?_
    refine (List.perm_ext_iff_of_nodup ((hsorted hwhole).imp hne) ((hsorted hparts).imp hne)).2 ?_
    intro slot
    rw [hstart.mem_wait hP hm hwhole, hstart.mem_wait hP hm hparts, hsum]
  rw [calls_wait hP _ hm, calls_wait hP _ hm, hslots]

/-- On a machine that is never halted, the calls tell the slots. -/
theorem slots_eq_of_calls_eq (hcpu : 0 < cpuHz) (htimer : 0 < timerHz) (hcap : 0 < maxCatchUp)
    (hP : Driven.Reliable P) (hlive : ∀ m, P m → Driven.isHalted m = false) (hm : P m)
    {whole parts : List ℚ} (hwhole : ∀ e ∈ whole, 0 ≤ e ∧ e ≤ maxCatchUp)
    (hparts : ∀ e ∈ parts, 0 ≤ e ∧ e ≤ maxCatchUp) (hsum : whole.sum = parts.sum)
    (hcalls : ((start cpuHz timerHz maxCatchUp).wait m whole).calls =
      ((start cpuHz timerHz maxCatchUp).wait m parts).calls) :
    ((start cpuHz timerHz maxCatchUp).wait m whole).slots =
      ((start cpuHz timerHz maxCatchUp).wait m parts).slots := by
  have hstart := onTime_start hcpu htimer hcap
  have hend := hstart.wait hP hm hwhole
  have hend' := hstart.wait hP hm hparts
  have hissues := issues_wait hP (start cpuHz timerHz maxCatchUp) hm whole
  have hissues' := issues_wait hP (start cpuHz timerHz maxCatchUp) hm parts
  refine Slot.eq_of_map_isCycle_eq ?_ ?_ ?_
  · rw [← Driven.map_isCycle_calls hP hlive hm, ← Driven.map_isCycle_calls hP hlive hm,
      ← calls_wait hP _ hm, ← calls_wait hP _ hm, hcalls]
  · have hticks := hend.ticks
    rw [hsum, ← hend'.ticks] at hticks
    rw [hissues.ticks, hissues'.ticks, Nat.cast_inj.1 hticks]
  · have hcycles := hend.cycles
    rw [hsum, ← hend'.cycles] at hcycles
    rw [hissues.cycles, hissues'.cycles, Nat.cast_inj.1 hcycles]

/-- **Turns that tell slots apart.**  Let a first slot come to count as due before a second.  A host
that stops between the two has them issued in that order; so if it makes no difference whether it
does, they stand in that order as well when they are issued together. -/
theorem precedes_of_calls_eq (hcpu : 0 < cpuHz) (htimer : 0 < timerHz) (hP : Driven.Reliable P)
    (hlive : ∀ m, P m → Driven.isHalted m = false) (hm : P m) {a b : Slot}
    (ha : 0 < a.dueAt cpuHz timerHz) (hab : a.dueAt cpuHz timerHz < b.dueAt cpuHz timerHz)
    (h : ∀ whole parts : List ℚ, (∀ e ∈ whole, 0 ≤ e ∧ e ≤ b.dueAt cpuHz timerHz) →
      (∀ e ∈ parts, 0 ≤ e ∧ e ≤ b.dueAt cpuHz timerHz) → whole.sum = parts.sum →
      ((start cpuHz timerHz (b.dueAt cpuHz timerHz)).wait m whole).calls =
        ((start cpuHz timerHz (b.dueAt cpuHz timerHz)).wait m parts).calls) :
    a.Precedes cpuHz timerHz b := by
  set first := a.dueAt cpuHz timerHz
  set last := b.dueAt cpuHz timerHz
  have hlast : 0 < last := ha.trans hab
  have hstart := onTime_start hcpu htimer hlast
  have hwhole : ∀ e ∈ [last], 0 ≤ e ∧ e ≤ last := by
    intro e he
    rw [List.mem_singleton.1 he]
    exact ⟨hlast.le, le_rfl⟩
  have hparts : ∀ e ∈ [first, last - first], 0 ≤ e ∧ e ≤ last := by
    intro e he
    rcases List.mem_cons.1 he with rfl | he
    · exact ⟨ha.le, hab.le⟩
    · rw [List.mem_singleton.1 he]
      exact ⟨by linarith, by linarith⟩
  have hsum : [last].sum = [first, last - first].sum := by
    simp only [List.sum_cons, List.sum_nil]
    ring
  have hslots := slots_eq_of_calls_eq hcpu htimer hlast hP hlive hm hwhole hparts hsum
    (h _ _ hwhole hparts hsum)
  have hpair : [a, b].Sublist ((start cpuHz timerHz last).wait m [first, last - first]).slots := by
    refine hstart.pair_sublist_wait hP hm hparts ha ?_ ?_ ?_
    · rw [zero_add]
    · rw [zero_add]
      exact hab
    · rw [zero_add, List.sum_singleton]
      exact (add_sub_cancel first last).ge
  have hsorted : ((start cpuHz timerHz last).wait m [last]).slots.Pairwise
      (Slot.Precedes cpuHz timerHz) := by
    have hone : ((start cpuHz timerHz last).wait m [last]).slots =
        (start cpuHz timerHz last).slots last := List.append_nil _
    rw [hone]
    exact hstart.pairwise_slots last
  rw [← hslots] at hpair
  exact List.pairwise_iff_forall_sublist.1 hsorted hpair

/-- **When a host's turns leave a trace.**  A machine that is never halted gets the same calls in the
same order from any two rows of advances that let the same time go by, none of them cut short by the
cap, exactly if the rates are steady. -/
theorem calls_eq_iff_steady (hcpu : 0 < cpuHz) (htimer : 0 < timerHz) (hP : Driven.Reliable P)
    (hlive : ∀ m, P m → Driven.isHalted m = false) (hm : P m) :
    (∀ (maxCatchUp : ℚ) (whole parts : List ℚ), 0 < maxCatchUp →
        (∀ e ∈ whole, 0 ≤ e ∧ e ≤ maxCatchUp) → (∀ e ∈ parts, 0 ≤ e ∧ e ≤ maxCatchUp) →
        whole.sum = parts.sum →
        ((start cpuHz timerHz maxCatchUp).wait m whole).calls =
          ((start cpuHz timerHz maxCatchUp).wait m parts).calls) ↔
      Steady cpuHz timerHz := by
  constructor
  · intro h a b ha hab
    exact precedes_of_calls_eq hcpu htimer hP hlive hm ha hab
      fun whole parts => h _ whole parts (ha.trans hab)
  · intro h maxCatchUp whole parts hcap hwhole hparts hsum
    exact calls_eq_of_steady h hcpu htimer hcap hP hm hwhole hparts hsum

/-- At the usual rates a quarter of a second may be split. -/
theorem calls_eq_iff_steady_usual :
    let s : Scheduler ℚ := start 500 60 (1 / 4)
    (∀ m : Metronome, Driven.isHalted m = false) ∧ Steady 500 60 ∧
      (s.wait Metronome.mk [1 / 4]).calls =
        (s.wait Metronome.mk [1 / 10, 3 / 20]).calls := by
  have hsteady : Steady 500 60 := by
    have h : Steady ((500 : ℕ) : ℚ) ((60 : ℕ) : ℚ) :=
      (steady_natCast_iff (by decide) (by decide) (by decide)).2 (by decide)
    exact_mod_cast h
  have hlive : ∀ m : Metronome, Driven.isHalted m = false := fun _ => rfl
  refine ⟨hlive, hsteady, ?_⟩
  refine (calls_eq_iff_steady (by norm_num) (by norm_num) Metronome.reliable (fun m _ => hlive m)
    trivial).2 hsteady (1 / 4) _ _ (by norm_num) ?_ ?_ ?_
  · norm_num
  · norm_num
  · norm_num

/-- **With a timer that is the faster clock the turns show.**  At one cycle and two ticks a second,
the first second brings two ticks and then the cycle slot, as they fall due at one instant.  But the
slot counts as due a billionth of a second before that, and the second tick only half as long
before: an advance that ends in between leaves the tick behind the slot.  Of the calls, `true` is a
cycle. -/
theorem calls_reordered :
    let whole : List ℚ := [1]
    let parts : List ℚ := [1 - 3 / 4000000000, 3 / 4000000000]
    whole.sum = parts.sum ∧ (∀ e ∈ whole ++ parts, 0 ≤ e ∧ e ≤ 1) ∧
      ((start 1 2 1).wait Metronome.mk whole).calls.map Call.isCycle =
        [false, false, true] ∧
      ((start 1 2 1).wait Metronome.mk parts).calls.map Call.isCycle =
        [false, true, false] := by
  intro whole parts
  refine ⟨by norm_num [whole, parts], by norm_num [whole, parts], ?_, ?_⟩
  · decide +kernel
  · decide +kernel

end Scheduler
end Chip8
