/-
# What instructions do

`execute` carries out one instruction.  The program counter already points past
it, so a skip adds two once more and a call keeps the counter as it is for the
way back.

Two rules hold throughout.  A flag is written after the result, so when an
instruction's target is the flag register itself, the flag is what remains.  An
address built from the index register is reduced to 12 bits, so no program can
reach outside the memory.

Five operations on bytes leave a flag beside their result: the carry of an
addition, "no borrow" of a subtraction when the first operand is the larger one,
and the bit that a shift pushes out.

A sprite is up to fifteen bytes of memory, a row of eight pixels to a byte, the
highest bit leftmost.  Its place on the screen is taken modulo the screen's
size; what then reaches beyond the right or the lower edge is cut off and does
not come in again on the other side.
-/

import Chip8.Instruction.Decode
import Chip8.Machine

namespace Chip8

/-! ### Arithmetic with a flag -/

namespace Alu

/-- One for true, zero for false. -/
def bit (b : Bool) : UInt8 := if b then 1 else 0

/-- Sum, and whether it exceeds a byte. -/
def add (a b : UInt8) : UInt8 × UInt8 := (a + b, bit (255 < a.toNat + b.toNat))

/-- Difference, and whether the first operand is the larger one. -/
def subtract (a b : UInt8) : UInt8 × UInt8 := (a - b, bit (b < a))

/-- Half, and the bit lost on the right. -/
def shiftRight (a : UInt8) : UInt8 × UInt8 := (a >>> 1, a &&& 1)

/-- Double, and the bit lost on the left. -/
def shiftLeft (a : UInt8) : UInt8 × UInt8 := (a <<< 1, a >>> 7)

end Alu

/-! ### Sprites -/

namespace Sprite

/-- Whether a column of a sprite row is lit; column 0 is the highest bit. -/
def lit (row : UInt8) (column : Nat) : Bool := row.toNat.testBit (7 - column)

/-- The lit points of one row that lie on the screen. -/
def rowPoints (width height x y : Nat) (row : UInt8) : List (Fin width × Fin height) :=
  (List.range 8).filterMap fun column =>
    if h : x + column < width ∧ y < height then
      if lit row column then some (⟨x + column, h.1⟩, ⟨y, h.2⟩) else none
    else none

/-- The lit points of a sprite with its corner at `(x, y)` that lie on the screen. -/
def points (width height x y : Nat) (rows : List UInt8) : List (Fin width × Fin height) :=
  rows.zipIdx.flatMap fun (row, k) => rowPoints width height x (y + k) row

end Sprite

/-! ### Instructions -/

/-- The address at a distance from the index register. -/
def Registers.indexed (r : Registers) (offset : Nat) : Address := Address.wrap (r.i + offset)

/-- The registers from `V0` up to and including a last one. -/
def Register.upTo (last : Register) : List Register := (List.finRange 16).filter (· ≤ last)

theorem Register.mem_upTo {last z : Register} : z ∈ upTo last ↔ z ≤ last := by
  simp [upTo]

/-- The decimal digits of a byte: hundreds, tens and units. -/
def decimalDigits (b : UInt8) : List UInt8 := [b / 100, b / 10 % 10, b % 10]

/-- Stores bytes one after the other from the index register on, going round at the end. -/
def Memory.storeAt (m : Memory 4096) (r : Registers) (bytes : List UInt8) : Memory 4096 :=
  bytes.zipIdx.foldl (fun m (b, k) => m.set (r.indexed k) b) m

/-- Flips the lit points of the sprite at the index register; the flag tells whether one of
them was on. -/
def drawSprite {width height : Nat} (ins : Instruction) (r : Registers) (memory : Memory 4096)
    (screen : Screen width height) : Registers × Screen width height :=
  let x := (r.get ins.x).toNat % width
  let y := (r.get ins.y).toNat % height
  let rows := (List.range ins.n.val).map fun k => memory.get (r.indexed k)
  let (screen, hit) := screen.flipAll (Sprite.points width height x y rows)
  (r.set Registers.flag (Alu.bit hit), screen)

namespace Machine

/-- Passes over the next instruction if a condition holds. -/
def skipIf (m : Machine) (condition : Bool) : Machine :=
  if condition then m.setPc ((m.regs.pc + 2) % 65536) else m

/-- Puts a result in a register and then a flag in the flag register. -/
def setWithFlag (m : Machine) (x : Register) (result : UInt8 × UInt8) : Machine :=
  (m.setV x result.1).setV Registers.flag result.2

/-- The lowest key that is down among those the machine looks at. -/
def pressedKey (m : Machine) : Option Nibble := m.keypad.firstDown m.keyScan.limit

/-- The key that the low four bits of a byte name. -/
def keyOf (b : UInt8) : Nibble := Nibble.low b.toNat

/-- Keeps the program counter for the way back and goes on at an address. -/
def call (m : Machine) (address : Address) : Machine × Option Stop :=
  match m.regs.push m.regs.pc with
  | (regs, some stop) => ({ m with regs }, some stop)
  | (regs, none) => ({ m with regs := { regs with pc := address.val } }, none)

/-- Goes on where the last call left off. -/
def comeBack (m : Machine) : Machine × Option Stop :=
  match m.regs.pop with
  | (regs, .error stop) => ({ m with regs }, some stop)
  | (regs, .ok address) => ({ m with regs := { regs with pc := address.toNat } }, none)

/-- Takes a key that is down into a register, or else waits for one at the instruction that asks
for it. -/
def takeKey (m : Machine) (x : Register) : Option Nibble → Machine
  | some key => m.setV x (UInt8.ofNat key.val)
  | none =>
    { m with regs := { m.regs with keyWait := some x.val, pc := (m.regs.pc - 2) % 65536 } }

/-- Carries out an instruction.  What it did before it broke off stays done.

A register takes the delay timer over as it is.  Both hold a byte, the timer because programs put
nothing else there and ticks lead no further; only where a host has put a number that is no byte
do its low eight bits have to stand for it. -/
def execute (m : Machine) (ins : Instruction) : Machine × Option Stop :=
  let vx := m.regs.get ins.x
  let vy := m.regs.get ins.y
  match ins.kind with
  | .clearScreen => ({ m with screen := m.screen.clear }, none)
  | .returnFromCall => m.comeBack
  | .jump => (m.setPc ins.nnn.val, none)
  | .call => m.call ins.nnn
  | .skipEqByte => (m.skipIf (vx == ins.kk), none)
  | .skipNeByte => (m.skipIf (vx != ins.kk), none)
  | .skipEqReg => (m.skipIf (vx == vy), none)
  | .setByte => (m.setV ins.x ins.kk, none)
  | .addByte => (m.setV ins.x (vx + ins.kk), none)
  | .copy => (m.setV ins.x vy, none)
  | .or => (m.setV ins.x (vx ||| vy), none)
  | .and => (m.setV ins.x (vx &&& vy), none)
  | .xor => (m.setV ins.x (vx ^^^ vy), none)
  | .add => (m.setWithFlag ins.x (Alu.add vx vy), none)
  | .subtract => (m.setWithFlag ins.x (Alu.subtract vx vy), none)
  | .shiftRight => (m.setWithFlag ins.x (Alu.shiftRight vx), none)
  | .subtractFrom => (m.setWithFlag ins.x (Alu.subtract vy vx), none)
  | .shiftLeft => (m.setWithFlag ins.x (Alu.shiftLeft vx), none)
  | .skipNeReg => (m.skipIf (vx != vy), none)
  | .setIndex => ({ m with regs := { m.regs with i := ins.nnn.val } }, none)
  | .jumpOffset => (m.setPc (((m.regs.get Registers.base).toNat + ins.nnn.val) % 65536), none)
  | .random =>
    let (random, b) := m.random.nextByte
    ({ m with random }.setV ins.x (b &&& ins.kk), none)
  | .draw =>
    let (regs, screen) := drawSprite ins m.regs m.memory m.screen
    ({ m with regs, screen }, none)
  | .skipKeyDown => (m.skipIf (m.keypad.isDown (keyOf vx)), none)
  | .skipKeyUp => (m.skipIf !(m.keypad.isDown (keyOf vx)), none)
  | .readDelay => (m.setV ins.x (UInt8.ofInt m.timers.delay), none)
  | .awaitKey => (m.takeKey ins.x m.pressedKey, none)
  | .setDelay => ({ m with timers := { m.timers with delay := vx.toNat } }, none)
  | .setSound => ({ m with timers := { m.timers with sound := vx.toNat } }, none)
  | .addIndex => ({ m with regs := { m.regs with i := (m.regs.i + vx.toNat) % 65536 } }, none)
  | .fontIndex => ({ m with regs := { m.regs with i := Font.address vx.toNat } }, none)
  | .storeDigits => ({ m with memory := m.memory.storeAt m.regs (decimalDigits vx) }, none)
  | .storeRegisters =>
    ({ m with memory := m.memory.storeAt m.regs ((Register.upTo ins.x).map m.regs.get) }, none)
  | .loadRegisters =>
    let v := Vector.ofFn fun k : Register =>
      if k ≤ ins.x then m.memory.get (m.regs.indexed k.val) else m.regs.get k
    ({ m with regs := { m.regs with v } }, none)
  | .nop => (m, none)

end Machine
end Chip8
