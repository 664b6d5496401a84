/-
# The machine

Everything there is: registers, 4096 bytes of memory, the screen, the keypad,
the two timers, the random bytes, and the machine's own record of how many
cycles it has run and of the fault that stopped it.

A new machine has the font in memory and everything else empty.  `reset` brings
it back there, with two exceptions that belong to the world outside: the keypad
stays as the host's fingers have it, and the random generator goes on where it
was.  The screen is wiped, which counts as something to draw.

The font is the hexadecimal digits as sprites of four by five pixels: five bytes a
digit, a row to a byte, in the upper half of it.  It lies at `0x050` in memory.

The timers are two counters that a fixed clock counts down to zero, independently of
the instructions: the delay timer, which a program can read, and the sound timer,
which makes the host beep while it is not zero.  Programs put bytes there.  The host
may put any integer; one that is negative stays where it is.
-/

import Chip8.Keypad
import Chip8.Memory
import Chip8.Random
import Chip8.Registers
import Chip8.Screen

namespace Chip8

/-! ### The built-in font -/

namespace Font

/-- Where the font starts in memory. -/
def start : Nat := 0x050

/-- Bytes to a digit. -/
def glyphSize : Nat := 5

/-- The glyphs of `0` to `F`. -/
def bytes : List UInt8 :=
  [0xF0, 0x90, 0x90, 0x90, 0xF0,
   0x20, 0x60, 0x20, 0x20, 0x70,
   0xF0, 0x10, 0xF0, 0x80, 0xF0,
   0xF0, 0x10, 0xF0, 0x10, 0xF0,
   0x90, 0x90, 0xF0, 0x10, 0x10,
   0xF0, 0x80, 0xF0, 0x10, 0xF0,
   0xF0, 0x80, 0xF0, 0x90, 0xF0,
   0xF0, 0x10, 0x20, 0x40, 0x40,
   0xF0, 0x90, 0xF0, 0x90, 0xF0,
   0xF0, 0x90, 0xF0, 0x10, 0xF0,
   0xF0, 0x90, 0xF0, 0x90, 0x90,
   0xE0, 0x90, 0xE0, 0x90, 0xE0,
   0xF0, 0x80, 0x80, 0x80, 0xF0,
   0xE0, 0x90, 0x90, 0x90, 0xE0,
   0xF0, 0x80, 0xF0, 0x80, 0xF0,
   0xF0, 0x80, 0xF0, 0x80, 0x80]

/-- The font has sixteen glyphs. -/
theorem length_bytes : bytes.length = 16 * glyphSize := by decide

/-- Where the glyph of a digit starts; of a larger number the lowest four bits count. -/
def address (digit : Int) : Int := start + digit % 16 * glyphSize

/-- A memory with the font in place and zero elsewhere. -/
def memory : Memory 4096 :=
  ((Memory.zero 4096).load start (bytes.map fun b => (b.toNat : Int))).1

end Font

/-! ### The timers -/

/-- The delay timer and the sound timer. -/
structure Timers where
  delay : Int := 0
  sound : Int := 0
  deriving DecidableEq, Repr

namespace Timers

/-- One step down for a counter that is above zero. -/
def countDown (n : Int) : Int := if 0 < n then n - 1 else n

/-- A counter that is not negative goes down to zero and stays there. -/
theorem countDown_of_nonneg {n : Int} (h : 0 ≤ n) : countDown n = max 0 (n - 1) := by
  unfold countDown; split <;> omega

/-- Both counters go one step down. -/
def tick (t : Timers) : Timers := ⟨countDown t.delay, countDown t.sound⟩

/-- Whether the host should make a sound. -/
def soundActive (t : Timers) : Bool := 0 < t.sound

end Timers

/-! ### The machine -/

/-- The whole state of an interpreter. -/
structure Machine where
  regs : Registers := {}
  memory : Memory 4096
  screen : Screen 64 32 := Screen.blank 64 32
  keypad : Keypad := Keypad.released
  timers : Timers := {}
  random : Twister
  keyScan : KeyScan := .reference
  /-- Whether a fault has stopped the program. -/
  halted : Bool := false
  /-- The fault on record. -/
  fault : Option Fault := none
  /-- The text of the fault that a host reads beside the registers. -/
  faultText : Option String := none
  /-- Cycles since the last reset or load. -/
  cycles : Nat := 0
  /-- Length of the loaded program. -/
  programSize : Nat := 0
  deriving DecidableEq, Repr

namespace Machine

/-- Where programs are loaded and start. -/
def programStart : Nat := 0x200

/-- The longest program that fits. -/
def capacity : Nat := 4096 - programStart

/-- A machine as it is switched on.  Without a seed its generator may start anywhere: that is up to
the system of the host, and so are the bytes that it draws.  `none` stands for one of these
machines, the one with seed zero. -/
def new (keyScan : KeyScan := .reference) (seed : Option Int := none) : Machine :=
  { memory := Font.memory, random := Twister.seeded (seed.getD 0), keyScan }

/-- A processor on an empty memory, without the font. -/
def bare : Machine := { memory := Memory.zero 4096, random := Twister.seeded 0 }

/-- Registers, cycle count and fault as they are when the machine is switched on. -/
def resetProcessor (m : Machine) : Machine :=
  { m with regs := {}, halted := false, fault := none, faultText := none, cycles := 0 }

/-- Everything but the keypad and the random bytes as it is when the machine is switched on. -/
def reset (m : Machine) : Machine :=
  { m.resetProcessor with
    memory := Font.memory, screen := m.screen.clear, timers := {}, programSize := 0 }

/-- One tick of the timers' clock. -/
def tick (m : Machine) : Machine := { m with timers := m.timers.tick }

/-- The host puts a key down. -/
def keyDown (m : Machine) (code : Int) : Except KeypadError Machine :=
  return { m with keypad := ← m.keypad.press code }

/-- The host lets a key up. -/
def keyUp (m : Machine) (code : Int) : Except KeypadError Machine :=
  return { m with keypad := ← m.keypad.release code }

/-- The host lets all keys up. -/
def releaseKeys (m : Machine) : Machine := { m with keypad := Keypad.released }

/-- The host asks whether there is a new frame to draw. -/
def takeDirty (m : Machine) : Machine × Bool :=
  let (screen, dirty) := m.screen.takeDirty
  ({ m with screen }, dirty)

/-- The host flips a pixel. -/
def togglePixel (m : Machine) (x y : Int) : Except PixelError (Machine × Bool) := do
  let (screen, was) ← m.screen.toggle x y
  return ({ m with screen }, was)

/-- The host stores a byte. -/
def poke (m : Machine) (address value : Int) : Except MemoryError Machine :=
  return { m with memory := ← m.memory.write address value }

/-- The host stores bytes one after the other, as far as they are accepted. -/
def pokeAll (m : Machine) (start : Int) (values : List Int) : Machine × Option MemoryError :=
  let (memory, refused) := m.memory.load start values
  ({ m with memory }, refused)

/-- The machine with a byte register replaced. -/
def setV (m : Machine) (x : Register) (b : UInt8) : Machine := { m with regs := m.regs.set x b }

/-- The machine with the program counter replaced. -/
def setPc (m : Machine) (pc : Int) : Machine := { m with regs := { m.regs with pc } }

/-- Every register by name with its value. -/
def registerMap (m : Machine) : List (String × Int) :=
  (List.finRange 16).map (fun x => (Instruction.registerText x, ((m.regs.get x).toNat : Int))) ++
    [("I", m.regs.i), ("PC", m.regs.pc), ("SP", m.regs.sp), ("DT", m.timers.delay),
      ("ST", m.timers.sound)]

/-- The registers in groups, each with its width in bits, as a host lays them out. -/
def registerLayout : List (String × List (String × Nat)) :=
  [("General", (List.finRange 16).map fun x => (Instruction.registerText x, 8)),
    ("Pointers", [("I", 16), ("PC", 16), ("SP", 8)]),
    ("Timers", [("DT", 8), ("ST", 8)])]

end Machine
end Chip8
