/-
# A host at work with a machine

A session is a list of calls that a host makes on one machine, one after the
other: it loads programs, drives the two clocks, moves keys and looks at the
screen.  A call that is refused is answered with the refusal and leaves the
machine as it was, and the session goes on.

`serve_cases` sorts the calls by what they can do to a machine.  `run_preserves`
and `run_related` are the two inductions over a session: what every call keeps of
one machine, or between two machines, a whole session keeps.
-/

import Chip8.Machine.Cycle
import Chip8.Machine.Load

namespace Chip8

/-- Something that a host asks of a machine. -/
inductive HostCall where
  /-- To load a program, given as any list of integers. -/
  | load (program : List Int)
  | reset
  | cycle
  /-- A tick of the timers' clock. -/
  | tick
  | keyDown (code : Int)
  | keyUp (code : Int)
  | releaseKeys
  /-- To say whether there is a new frame to draw. -/
  | takeDirty
  /-- To show the screen. -/
  | frame
  /-- To put all pixels out. -/
  | clearScreen
  | togglePixel (x y : Int)
  deriving DecidableEq, Repr

/-- Whether a call makes the machine start over: it is a reset, or a load of bytes that fit. -/
def HostCall.startsOver : HostCall → Bool
  | .reset => true
  | .load program => program.all (fun b => 0 ≤ b && b ≤ 255) && program.length ≤ Machine.capacity
  | _ => false

/-- What the host gets back. -/
inductive Reply where
  | done
  | loaded (size : Nat)
  | notLoaded (e : LoadError)
  | cycled (answer : Except CycleError Snapshot)
  | noKey (e : KeypadError)
  | dirty (flag : Bool)
  | frame (rows : Vector (Vector Bool 64) 32)
  /-- A pixel was flipped that had been on, or off. -/
  | toggled (was : Bool)
  | noPixel (e : PixelError)

namespace Machine

/-- The machine that a request leads to, or the old one and the refusal. -/
def settle {ε : Type} (m : Machine) (refusal : ε → Reply) (reply : Machine → Reply) :
    Except ε Machine → Machine × Reply
  | .ok next => (next, reply next)
  | .error e => (m, refusal e)

/-- Answers a call. -/
def serve (m : Machine) : HostCall → Machine × Reply
  | .load program => m.settle .notLoaded (fun next => .loaded next.programSize) (m.load program)
  | .reset => (m.reset, .done)
  | .cycle => (m.cycle.1, .cycled m.cycle.2)
  | .tick => (m.tick, .done)
  | .keyDown code => m.settle .noKey (fun _ => .done) (m.keyDown code)
  | .keyUp code => m.settle .noKey (fun _ => .done) (m.keyUp code)
  | .releaseKeys => (m.releaseKeys, .done)
  | .takeDirty => (m.takeDirty.1, .dirty m.takeDirty.2)
  | .frame => (m, .frame m.screen.rows)
  | .clearScreen => ({ m with screen := m.screen.clear }, .done)
  | .togglePixel x y =>
    match m.togglePixel x y with
    | .ok (next, was) => (next, .toggled was)
    | .error e => (m, .noPixel e)

/-- The machine at the end of a session. -/
def run (m : Machine) (calls : List HostCall) : Machine := calls.foldl (fun m c => (m.serve c).1) m

@[simp] theorem run_nil (m : Machine) : m.run [] = m := rfl

@[simp] theorem run_cons (m : Machine) (c : HostCall) (calls : List HostCall) :
    m.run (c :: calls) = (m.serve c).1.run calls := rfl

/-- A session in two parts goes on where the first part ends. -/
theorem run_append (m : Machine) (calls more : List HostCall) :
    m.run (calls ++ more) = (m.run calls).run more := List.foldl_append

/-- The answers of a session, one to each call. -/
def replies (m : Machine) : List HostCall → List Reply
  | [] => []
  | c :: calls => (m.serve c).2 :: (m.serve c).1.replies calls

/-! ### Calls that can be refused

Whether a call is refused is up to its arguments alone. -/

/-- Whether a program is refused, and why, is up to the program alone. -/
theorem serve_load (program : List Int) :
    (∃ e, ∀ m : Machine, m.serve (.load program) = (m, .notLoaded e)) ∨
      ∀ m : Machine, m.serve (.load program) = (m.loaded program, .loaded program.length) := by
  rcases load_eq_or program with ⟨e, he⟩ | hok
  · exact .inl ⟨e, fun m => by rw [serve, he]; rfl⟩
  · exact .inr fun m => by rw [serve, hok]; rfl

/-- Whether there is a key with a code is up to the code; if so, it is put down. -/
theorem serve_keyDown (code : Int) :
    (∃ e, ∀ m : Machine, m.serve (.keyDown code) = (m, .noKey e)) ∨
      ∃ key, ∀ m : Machine,
        m.serve (.keyDown code) = ({ m with keypad := m.keypad.put key true }, .done) := by
  cases hkey : Keypad.key code with
  | error e => exact .inl ⟨e, fun m => by rw [serve, keyDown, Keypad.press, hkey]; rfl⟩
  | ok key => exact .inr ⟨key, fun m => by rw [serve, keyDown, Keypad.press, hkey]; rfl⟩

/-- Whether there is a key with a code is up to the code; if so, it is let up. -/
theorem serve_keyUp (code : Int) :
    (∃ e, ∀ m : Machine, m.serve (.keyUp code) = (m, .noKey e)) ∨
      ∃ key, ∀ m : Machine,
        m.serve (.keyUp code) = ({ m with keypad := m.keypad.put key false }, .done) := by
  cases hkey : Keypad.key code with
  | error e => exact .inl ⟨e, fun m => by rw [serve, keyUp, Keypad.release, hkey]; rfl⟩
  | ok key => exact .inr ⟨key, fun m => by rw [serve, keyUp, Keypad.release, hkey]; rfl⟩

/-- Whether there is a pixel at some coordinates is up to these; if so, it is flipped and the host
is told what it was before. -/
theorem serve_togglePixel (x y : Int) :
    (∃ e, ∀ m : Machine, m.serve (.togglePixel x y) = (m, .noPixel e)) ∨
      ∃ p : Fin 64 × Fin 32, ∀ m : Machine, m.serve (.togglePixel x y) =
        ({ m with screen := m.screen.flip p.1 p.2 }, .toggled (m.screen.get p.1 p.2)) := by
  cases hp : Screen.point? 64 32 x y with
  | none => exact .inl ⟨⟨x, y, 64, 32⟩, fun m => by rw [serve, togglePixel, Screen.toggle, hp]; rfl⟩
  | some p => exact .inr ⟨p, fun m => by rw [serve, togglePixel, Screen.toggle, hp]; rfl⟩

/-- The programs that are loaded are those of bytes that fit above `0x200`. -/
theorem startsOver_load {program : List Int} : (HostCall.load program).startsOver = true ↔
    (∀ b ∈ program, 0 ≤ b ∧ b ≤ 255) ∧ program.length ≤ capacity := by
  simp only [HostCall.startsOver, Bool.and_eq_true, List.all_eq_true, decide_eq_true_eq]

/-- A load of a program that does not fit changes nothing. -/
theorem serve_load_of_not_startsOver (m : Machine) {program : List Int}
    (h : (HostCall.load program).startsOver = false) : (m.serve (.load program)).1 = m := by
  cases hload : m.load program with
  | error e =>
    rw [serve, hload]
    rfl
  | ok next =>
    obtain ⟨hbytes, hlength, -⟩ := load_eq_ok hload
    rw [startsOver_load.2 ⟨hbytes, hlength⟩] at h
    cases h

/-- **The three things that a call can do.**  It makes the machine start over; or it is a cycle;
or all that it changes is the keypad, the timers or the screen. -/
theorem serve_cases (m : Machine) (c : HostCall) :
    (c.startsOver = true ∧
        ∃ memory programSize, programSize ≤ capacity ∧
          (m.serve c).1 = { m.reset with memory, programSize }) ∨
      c = .cycle ∨
      c.startsOver = false ∧ c ≠ .cycle ∧
        ∃ keypad timers screen, (m.serve c).1 = { m with keypad, timers, screen } := by
  cases c with
  | load program =>
    by_cases hfits : (HostCall.load program).startsOver = true
    · obtain ⟨hbytes, hlength⟩ := startsOver_load.1 hfits
      have hserve : (m.serve (.load program)).1 = m.loaded program := by
        rw [serve, m.load_of_fits hbytes hlength]
        rfl
      exact .inl ⟨hfits, _, _, hlength, hserve⟩
    · rw [Bool.not_eq_true] at hfits
      exact .inr (.inr ⟨hfits, nofun, m.keypad, m.timers, m.screen,
        m.serve_load_of_not_startsOver hfits⟩)
  | reset => exact .inl ⟨rfl, _, _, Nat.zero_le _, rfl⟩
  | cycle => exact .inr (.inl rfl)
  | keyDown code =>
    right; right
    rcases serve_keyDown code with ⟨e, he⟩ | ⟨key, hkey⟩
    · exact ⟨rfl, nofun, m.keypad, m.timers, m.screen, by rw [he]⟩
    · exact ⟨rfl, nofun, _, m.timers, m.screen, by rw [hkey]⟩
  | keyUp code =>
    right; right
    rcases serve_keyUp code with ⟨e, he⟩ | ⟨key, hkey⟩
    · exact ⟨rfl, nofun, m.keypad, m.timers, m.screen, by rw [he]⟩
    · exact ⟨rfl, nofun, _, m.timers, m.screen, by rw [hkey]⟩
  | togglePixel x y =>
    right; right
    rcases serve_togglePixel x y with ⟨e, he⟩ | ⟨p, hp⟩
    · exact ⟨rfl, nofun, m.keypad, m.timers, m.screen, by rw [he]⟩
    · exact ⟨rfl, nofun, m.keypad, m.timers, _, by rw [hp]⟩
  | tick | releaseKeys | takeDirty | frame | clearScreen =>
    exact .inr (.inr ⟨rfl, nofun, _, _, _, rfl⟩)

/-! ### Properties that calls keep -/

/-- **What a call can make of a machine.**  A load or a reset, a cycle, a tick, another keypad,
another screen: a property that all of these keep is kept by every call. -/
theorem serve_preserves {P : Machine → Prop} {m : Machine} (hm : P m)
    (load : ∀ program, program.length ≤ capacity → P (m.loaded program)) (reset : P m.reset)
    (cycle : P m.cycle.1) (tick : P m.tick) (keypad : ∀ keypad, P { m with keypad })
    (screen : ∀ screen, P { m with screen }) (c : HostCall) : P (m.serve c).1 := by
  cases c with
  | load program =>
    simp only [serve]
    cases hload : m.load program with
    | error e => exact hm
    | ok next =>
      obtain ⟨-, hlength, rfl⟩ := load_eq_ok hload
      exact load program hlength
  | reset => exact reset
  | cycle => exact cycle
  | tick => exact tick
  | keyDown code =>
    rcases serve_keyDown code with ⟨e, he⟩ | ⟨key, hkey⟩
    · rw [he]
      exact hm
    · rw [hkey]
      exact keypad _
  | keyUp code =>
    rcases serve_keyUp code with ⟨e, he⟩ | ⟨key, hkey⟩
    · rw [he]
      exact hm
    · rw [hkey]
      exact keypad _
  | releaseKeys => exact keypad _
  | takeDirty => exact screen _
  | frame => exact hm
  | clearScreen => exact screen _
  | togglePixel x y =>
    rcases serve_togglePixel x y with ⟨e, he⟩ | ⟨p, hp⟩
    · rw [he]
      exact hm
    · rw [hp]
      exact screen _

/-- What every call keeps, a session keeps. -/
theorem run_preserves {P : Machine → Prop} (h : ∀ m c, P m → P (m.serve c).1) (m : Machine)
    (calls : List HostCall) (hm : P m) : P (m.run calls) := by
  induction calls generalizing m with
  | nil => exact hm
  | cons c calls ih => exact ih _ (h m c hm)

/-- What every call keeps between two machines, a session on both keeps. -/
theorem run_related {R : Machine → Machine → Prop}
    (h : ∀ m k c, R m k → R (m.serve c).1 (k.serve c).1) (m k : Machine) (calls : List HostCall)
    (hmk : R m k) : R (m.run calls) (k.run calls) := by
  induction calls generalizing m k with
  | nil => exact hmk
  | cons c calls ih => exact ih _ _ (h m k c hmk)

end Machine
end Chip8
