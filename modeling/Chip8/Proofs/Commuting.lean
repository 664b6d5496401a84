/-
# Events in either order

Between two cycles the world goes on: the timers are counted down, keys move, the
host looks at the screen.  Each of these is an `Adjustment` of what lies around the
processor, and it makes no difference whether it comes just before a cycle or just
after, unless the cycle has to do with the very part that is adjusted.

`Adjustment.Unseen` says when an instruction has nothing to do with an adjustment:
it neither reads nor writes the timers or the pixels that are adjusted, and as far
as it looks at keys, it finds what it would have found.  Such an instruction, and
so the whole cycle, can be carried out before the adjustment or after it, with the
same answer (`Adjustment.execute_apply`, `Adjustment.cycle_apply`).  What is left
for each event is to see which kinds of instruction stand in its way
(`commutes_of_apart`).
-/

import Mathlib.Data.List.Find
import Chip8.Proofs.Records

namespace Chip8

/-- Two calls that a host can make in either order: they lead to the same machine, and each of them
is answered alike. -/
structure Machine.Commutes (m : Machine) (c d : HostCall) : Prop where
  state : ((m.serve c).1.serve d).1 = ((m.serve d).1.serve c).1
  first : (m.serve c).2 = ((m.serve d).1.serve c).2
  second : ((m.serve c).1.serve d).2 = (m.serve d).2

/-- Whether the next cycle searches the keypad: the machine waits for a key, or it is due to ask for
one. -/
def Machine.Scans (m : Machine) : Prop :=
  (m.halted = false ∧ m.regs.waiting = true) ∨ ∃ ins, m.due? = some ins ∧ ins.kind = .awaitKey

/-- Whether the next cycle looks at a key: it asks for this one, or it searches all keys up to one
above it. -/
def Machine.LooksAt (m : Machine) (key : Nibble) : Prop :=
  (∃ ins, m.due? = some ins ∧ ins.kind ∈ [.skipKeyDown, .skipKeyUp] ∧
      (m.regs.get ins.x).toNat % 16 = key.val) ∨
    (m.Scans ∧ key.val < m.keyScan.limit)

/-- A change to what lies around the processor. -/
structure Adjustment where
  keypad : Keypad → Keypad := id
  timers : Timers → Timers := id
  screen : Screen 64 32 → Screen 64 32 := id

namespace Adjustment

/-- The machine with its surroundings adjusted. -/
def apply (e : Adjustment) (m : Machine) : Machine :=
  { m with keypad := e.keypad m.keypad, timers := e.timers m.timers, screen := e.screen m.screen }

/-- An adjustment that an instruction has nothing to do with. -/
structure Unseen (e : Adjustment) (m : Machine) (ins : Instruction) : Prop where
  timers : ins.kind ∈ [.readDelay, .setDelay, .setSound] → e.timers = id
  screen : ins.kind ∈ [.clearScreen, .draw] → e.screen = id
  key : ins.kind ∈ [.skipKeyDown, .skipKeyUp] →
    (e.keypad m.keypad).isDown (Machine.keyOf (m.regs.get ins.x)) =
      m.keypad.isDown (Machine.keyOf (m.regs.get ins.x))
  scan : ins.kind = .awaitKey → (e.apply m).pressedKey = m.pressedKey

variable {e : Adjustment} {m : Machine} {ins : Instruction}

/-- A call looks at neither keys nor timers nor pixels. -/
theorem call_apply (e : Adjustment) (m : Machine) (address : Address) :
    (e.apply m).call address = (e.apply (m.call address).1, (m.call address).2) := by
  have hregs : (e.apply m).regs = m.regs := rfl
  unfold Machine.call
  rw [hregs]
  rcases m.regs.push m.regs.pc with ⟨regs, _ | stop⟩ <;> rfl

/-- A return looks at neither keys nor timers nor pixels. -/
theorem comeBack_apply (e : Adjustment) (m : Machine) :
    (e.apply m).comeBack = (e.apply m.comeBack.1, m.comeBack.2) := by
  have hregs : (e.apply m).regs = m.regs := rfl
  unfold Machine.comeBack
  rw [hregs]
  rcases m.regs.pop with ⟨regs, stop | address⟩ <;> rfl

/-- **An instruction before or after an adjustment.** -/
theorem execute_apply (h : e.Unseen m ins) :
    (e.apply m).execute ins = (e.apply (m.execute ins).1, (m.execute ins).2) := by
  cases hk : ins.kind <;> simp only [Machine.execute, hk, Machine.skipIf_eq_setPc]
  case call => exact e.call_apply m ins.nnn
  case returnFromCall => exact e.comeBack_apply m
  case clearScreen | draw =>
    have hscreen : e.screen = id := h.screen (by rw [hk]; decide)
    simp only [apply, hscreen, id]
  case setDelay | setSound =>
    have htimers : e.timers = id := h.timers (by rw [hk]; decide)
    simp only [apply, htimers, id]
  case readDelay =>
    have htimers : e.timers = id := h.timers (by rw [hk]; decide)
    simp only [apply, htimers, id]
    rfl
  case skipKeyDown | skipKeyUp =>
    have hkey := h.key (by rw [hk]; decide)
    simp only [apply, hkey]
    rfl
  case awaitKey =>
    rw [h.scan hk]
    cases m.pressedKey <;> rfl
  all_goals rfl

/-- How a cycle is concluded has nothing to do with keys, timers and pixels. -/
theorem conclude_apply (e : Adjustment) (pc : Int) (ins : Instruction) (n : Machine)
    (stop : Option Stop) :
    Machine.conclude pc ins (e.apply n, stop) =
      (e.apply (Machine.conclude pc ins (n, stop)).1, (Machine.conclude pc ins (n, stop)).2) := by
  rcases stop with _ | ⟨f⟩ | ⟨error⟩ <;> rfl

/-- A wait that has been told its key looks at the keypad no more. -/
theorem awaitCycle_apply (e : Adjustment) (m : Machine) (register : Int) (key : Option Nibble) :
    (e.apply m).awaitCycle register key =
      (e.apply (m.awaitCycle register key).1, (m.awaitCycle register key).2) := by
  unfold Machine.awaitCycle
  cases key with
  | none => rfl
  | some key => cases Registers.slot? register <;> rfl

/-- **A cycle before or after an adjustment.**  The instruction that is due must have nothing to do
with it, and a machine that waits for a key must find the same one. -/
theorem cycle_apply (hdue : ∀ ins, m.due? = some ins → e.Unseen m ins)
    (hwait : m.halted = false → m.regs.waiting = true →
      (e.apply m).pressedKey = m.pressedKey) :
    (e.apply m).cycle = (e.apply m.cycle.1, m.cycle.2) := by
  by_cases hh : m.halted = true
  · rw [m.cycle_of_halted hh, (e.apply m).cycle_of_halted hh]
    rfl
  · rw [Bool.not_eq_true] at hh
    rcases hw : m.regs.keyWait with _ | register
    · have hunseen := hdue _ (m.due?_of_running hh hw)
      have hpast : e.Unseen (m.past m.nextInstruction) m.nextInstruction :=
        ⟨hunseen.timers, hunseen.screen, hunseen.key, hunseen.scan⟩
      have hexecute := execute_apply hpast
      rw [m.cycle_of_running hh hw, (e.apply m).cycle_of_running hh hw]
      calc (e.apply m).executeCycle
          = Machine.conclude m.regs.pc m.nextInstruction
              ((e.apply (m.past m.nextInstruction)).execute m.nextInstruction) := rfl
        _ = (e.apply m.executeCycle.1, m.executeCycle.2) := by
          rw [hexecute]
          exact e.conclude_apply _ _ _ _
    · have hfound := hwait hh (by rw [Registers.waiting, hw]; rfl)
      rw [m.cycle_of_waiting hh hw, (e.apply m).cycle_of_waiting hh hw, hfound]
      exact e.awaitCycle_apply m register m.pressedKey

end Adjustment

/-- A search does not see keys above its limit. -/
theorem Keypad.firstDown_put (k : Keypad) {key : Nibble} {limit : Nat} (h : limit ≤ key.val)
    (down : Bool) : (k.put key down).firstDown limit = k.firstDown limit := by
  refine List.find?_congr fun other hother => ?_
  have hlt : other.val < limit := by simpa [keysBelow] using hother
  rw [isDown_put, if_neg (Fin.ne_of_val_ne (show key.val ≠ other.val by omega))]

namespace Machine

variable {m : Machine}

/-- An event that is an adjustment commutes with a cycle that does. -/
theorem commutes_cycle {e : Adjustment} {c : HostCall} (hserve : ∀ n, (serve n c).1 = e.apply n)
    (hcycle : (e.apply m).cycle = (e.apply m.cycle.1, m.cycle.2))
    (hreply : (m.cycle.1.serve c).2 = (m.serve c).2) : m.Commutes .cycle c where
  state := by
    rw [hserve, hserve]
    exact (congrArg Prod.fst hcycle).symm
  first := by
    rw [hserve]
    exact (congrArg (fun r => Reply.cycled r.2) hcycle).symm
  second := hreply

/-- **A cycle and a tick commute**, unless the instruction is about the timers. -/
theorem commutes_cycle_tick
    (h : ∀ ins, m.due? = some ins → ins.kind ∉ [.readDelay, .setDelay, .setSound]) :
    m.Commutes .cycle .tick := by
  let e : Adjustment := { timers := Timers.tick }
  have hunseen : ∀ ins, m.due? = some ins → e.Unseen m ins := fun ins hins =>
    ⟨fun hk => absurd hk (h ins hins), fun _ => rfl, fun _ => rfl, fun _ => rfl⟩
  exact commutes_cycle (fun _ => rfl) (Adjustment.cycle_apply hunseen fun _ _ => rfl) rfl

/-- A cycle that does not draw leaves the screen alone. -/
theorem screen_cycle (h : ∀ ins, m.due? = some ins → ins.kind ∉ [.clearScreen, .draw]) :
    m.cycle.1.screen = m.screen := by
  rcases m.cycle_footprint with ⟨-, regs, cycles, hcycle⟩ |
    ⟨hdue, halted, fault, faultText, cycles, hcycle⟩
  · rw [hcycle]
  · rw [hcycle]
    exact ((m.past m.nextInstruction).execute_footprint m.nextInstruction).screen (h _ hdue)

/-- **A cycle and a look for a new frame commute**, unless the instruction is about the screen. -/
theorem commutes_cycle_takeDirty
    (h : ∀ ins, m.due? = some ins → ins.kind ∉ [.clearScreen, .draw]) :
    m.Commutes .cycle .takeDirty := by
  let e : Adjustment := { screen := fun s => s.takeDirty.1 }
  have hunseen : ∀ ins, m.due? = some ins → e.Unseen m ins := fun ins hins =>
    ⟨fun _ => rfl, fun hk => absurd hk (h ins hins), fun _ => rfl, fun _ => rfl⟩
  have hflag : (m.cycle.1.serve .takeDirty).2 = (m.serve .takeDirty).2 :=
    congrArg (fun s : Screen 64 32 => Reply.dirty s.dirty) (screen_cycle h)
  exact commutes_cycle (fun _ => rfl) (Adjustment.cycle_apply hunseen fun _ _ => rfl) hflag

/-- A key that a cycle does not look at can move before it or after it. -/
theorem commutes_cycle_put {key : Nibble} (h : ¬ m.LooksAt key) {c : HostCall} {down : Bool}
    (hserve : ∀ n : Machine, n.serve c = ({ n with keypad := n.keypad.put key down }, .done)) :
    m.Commutes .cycle c := by
  let e : Adjustment := { keypad := fun k => k.put key down }
  have hsearch : m.Scans → (e.apply m).pressedKey = m.pressedKey := fun hscans =>
    m.keypad.firstDown_put (Nat.le_of_not_lt fun hlt => h (.inr ⟨hscans, hlt⟩)) down
  have hunseen : ∀ ins, m.due? = some ins → e.Unseen m ins := by
    intro ins hins
    refine ⟨fun _ => rfl, fun _ => rfl, fun hk => ?_, fun hk => hsearch (.inr ⟨ins, hins, hk⟩)⟩
    have hother : key ≠ keyOf (m.regs.get ins.x) := by
      rintro rfl
      refine h (.inl ⟨ins, hins, hk, ?_⟩)
      simp only [keyOf, Nibble.low]
      omega
    exact (m.keypad.isDown_put key _ down).trans (if_neg hother)
  refine commutes_cycle (fun n => by rw [hserve]; rfl)
    (Adjustment.cycle_apply hunseen fun hh hw => hsearch (.inl ⟨hh, hw⟩)) ?_
  rw [hserve, hserve]

/-- **A cycle and a move of a key commute**, unless the instruction looks at this key. -/
theorem commutes_cycle_key {key : Nibble} (h : ¬ m.LooksAt key) :
    m.Commutes .cycle (.keyDown key.val) ∧ m.Commutes .cycle (.keyUp key.val) := by
  have hkey : Keypad.key (key.val : Int) = .ok key := by
    rw [Keypad.key, Nibble.ofInt?_eq_some.2 rfl]
  constructor
  · exact commutes_cycle_put h fun n => by rw [serve, keyDown, Keypad.press, hkey]; rfl
  · exact commutes_cycle_put h fun n => by rw [serve, keyUp, Keypad.release, hkey]; rfl

/-- Keys and timers have nothing to do with each other. -/
theorem commutes_key_tick (m : Machine) (code : Int) :
    m.Commutes (.keyDown code) .tick ∧ m.Commutes (.keyUp code) .tick := by
  constructor
  · rcases serve_keyDown code with ⟨e, he⟩ | ⟨key, hkey⟩
    · exact ⟨by rw [he, he], by rw [he, he], by rw [he]⟩
    · exact ⟨by rw [hkey, hkey]; rfl, by rw [hkey, hkey], by rw [hkey]; rfl⟩
  · rcases serve_keyUp code with ⟨e, he⟩ | ⟨key, hkey⟩
    · exact ⟨by rw [he, he], by rw [he, he], by rw [he]⟩
    · exact ⟨by rw [hkey, hkey]; rfl, by rw [hkey, hkey], by rw [hkey]; rfl⟩

/-- **Independent events commute,** in every state of a machine.  A cycle and a tick do, unless the
cycle carries out an instruction about the timers; a cycle and a move of a key do, unless the cycle
looks at this key; moves of keys and ticks always do; and a cycle and a look at the screen do,
unless the cycle draws. -/
theorem commutes_of_apart (m : Machine) :
    ((∀ ins, m.due? = some ins → ins.kind ∉ [.readDelay, .setDelay, .setSound]) →
        m.Commutes .cycle .tick) ∧
      (∀ key : Nibble, ¬ m.LooksAt key →
        m.Commutes .cycle (.keyDown key.val) ∧ m.Commutes .cycle (.keyUp key.val)) ∧
      (∀ code, m.Commutes (.keyDown code) .tick ∧ m.Commutes (.keyUp code) .tick ∧
        m.Commutes .releaseKeys .tick) ∧
      ((∀ ins, m.due? = some ins → ins.kind ∉ [.clearScreen, .draw]) →
        m.Commutes .cycle .takeDirty) := by
  refine ⟨commutes_cycle_tick, fun key => commutes_cycle_key, fun code => ?_,
    commutes_cycle_takeDirty⟩
  obtain ⟨hdown, hup⟩ := m.commutes_key_tick code
  exact ⟨hdown, hup, ⟨rfl, rfl, rfl⟩⟩

end Machine
end Chip8
