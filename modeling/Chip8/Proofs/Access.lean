/-
# No access of a cycle is refused

Memory, keypad and screen take any integers from a host and refuse those out of
range.  Instructions go to them by indices that cannot be out of range.  Here is
the cycle once more with every one of its accesses made the host's way:
`cycleChecked` fetches its word, reads and stores bytes, looks at keys and flips
pixels at integers computed from the registers, sprites pixel by pixel, and ends
with the first access that is refused.

`cycleChecked_eq` says that none ever is: whatever the registers hold, reducing
an address to 12 bits, a key to four bits and a corner to the sides of the screen
is enough, and cutting a sprite off at the edges is exactly what keeps its pixels
on the screen.
-/

import Chip8.Machine.Cycle

namespace Chip8

/-- Why an access is refused. -/
inductive Refusal where
  | memory (e : MemoryError)
  | keypad (e : KeypadError)
  | pixel (e : PixelError)
  deriving DecidableEq, Repr

/-- Stores bytes one after the other from the index register on. -/
def Memory.storeChecked (m : Memory 4096) (r : Registers) (bytes : List UInt8) :
    Except Refusal (Memory 4096) :=
  bytes.zipIdx.foldlM
    (fun m (b, k) => (m.write ((r.i + (k : Nat)) % 4096) b.toNat).mapError .memory) m

/-- Loads registers one after the other from the index register on. -/
def Registers.loadChecked (r : Registers) (memory : Memory 4096) (xs : List Register) :
    Except Refusal Registers :=
  xs.foldlM (fun r x => do
    let b ← (memory.read ((r.i + (x.val : Nat)) % 4096)).mapError .memory
    return r.set x b) r

section Draw

variable {width height : Nat}

/-- Flips the lit pixels of the `k`-th row of a sprite as far as the right edge, unless the row is
below the lower one. -/
def drawRowChecked (r : Registers) (memory : Memory 4096) (x y : Nat)
    (screen : Screen width height × Bool) (k : Nat) :
    Except Refusal (Screen width height × Bool) :=
  if height ≤ y + k then return screen
  else do
    let row ← (memory.read ((r.i + (k : Nat)) % 4096)).mapError .memory
    (List.range 8).foldlM (fun screen column =>
      if width ≤ x + column then return screen
      else if Sprite.lit row column then do
        let (flipped, was) ← (screen.1.toggle (x + column : Nat) (y + k : Nat)).mapError .pixel
        return (flipped, screen.2 || was)
      else return screen) screen

/-- Flips the lit pixels of a sprite row by row. -/
def drawChecked (ins : Instruction) (r : Registers) (memory : Memory 4096)
    (screen : Screen width height) : Except Refusal (Registers × Screen width height) := do
  let x := (r.get ins.x).toNat % width
  let y := (r.get ins.y).toNat % height
  let drawn ← (List.range ins.n.val).foldlM (drawRowChecked r memory x y) (screen, false)
  return (r.set Registers.flag (Alu.bit drawn.2), drawn.1)

end Draw

namespace Machine

/-- Carries out an instruction with the host's accesses. -/
def executeChecked (m : Machine) (ins : Instruction) : Except Refusal (Machine × Option Stop) :=
  let vx := m.regs.get ins.x
  match ins.kind with
  | .draw => do
    let (regs, screen) ← drawChecked ins m.regs m.memory m.screen
    return ({ m with regs, screen }, none)
  | .skipKeyDown => do
    let key ← (m.keypad.read ((vx.toNat : Int) % 16)).mapError .keypad
    return (m.skipIf (key != 0), none)
  | .skipKeyUp => do
    let key ← (m.keypad.read ((vx.toNat : Int) % 16)).mapError .keypad
    return (m.skipIf !(key != 0), none)
  | .awaitKey => do
    let key? ← (m.keypad.first m.keyScan.limit).mapError .keypad
    return (m.takeKey ins.x key?, none)
  | .storeDigits => do
    let memory ← m.memory.storeChecked m.regs (decimalDigits vx)
    return ({ m with memory }, none)
  | .storeRegisters => do
    let memory ← m.memory.storeChecked m.regs ((Register.upTo ins.x).map m.regs.get)
    return ({ m with memory }, none)
  | .loadRegisters => do
    let regs ← m.regs.loadChecked m.memory (Register.upTo ins.x)
    return ({ m with regs }, none)
  | _ => return m.execute ins

/-- One cycle with the host's accesses. -/
def cycleChecked (m : Machine) : Except Refusal (Machine × Except CycleError Snapshot) :=
  if m.halted then return m.answer (.halted m.regs.pc) m.fault
  else match m.regs.keyWait with
    | some register => do
      let key? ← (m.keypad.first m.keyScan.limit).mapError .keypad
      return m.awaitCycle register key?
    | none => do
      let word ← (m.memory.word m.regs.pc).mapError .memory
      let ins := Instruction.decode word
      return conclude m.regs.pc ins (← (m.past ins).executeChecked ins)

end Machine

/-- A loop whose steps are never refused is a plain loop. -/
theorem foldlM_eq_ok {α β ε : Type} {f : β → α → Except ε β} {g : β → α → β}
    (h : ∀ b a, f b a = .ok (g b a)) (l : List α) (b : β) : l.foldlM f b = .ok (l.foldl g b) := by
  obtain rfl : f = fun b a => pure (g b a) := funext fun b => funext (h b)
  exact List.foldlM_pure

/-! ### Memory and keypad -/

/-- An address that was reduced to twelve bits is never refused for reading. -/
theorem Memory.read_indexed (m : Memory 4096) (r : Registers) (k : Nat) :
    m.read ((r.i + (k : Nat)) % 4096) = .ok (m.get (r.indexed k)) := by
  rw [read, index?_wrap]
  rfl

/-- A byte is never refused as a value. -/
theorem Memory.byte?_toNat (b : UInt8) : byte? (b.toNat : Int) = some b := by
  have := b.toNat_lt
  rw [byte?, if_pos (by omega)]
  simp

/-- A byte at an address that was reduced to twelve bits is never refused for writing. -/
theorem Memory.write_indexed (m : Memory 4096) (r : Registers) (k : Nat) (b : UInt8) :
    m.write ((r.i + (k : Nat)) % 4096) b.toNat = .ok (m.set (r.indexed k) b) := by
  rw [write, index?_wrap, byte?_toNat]
  rfl

/-- No store of a block from the index register on is refused, wherever this points. -/
theorem Memory.storeChecked_eq (m : Memory 4096) (r : Registers) (bytes : List UInt8) :
    m.storeChecked r bytes = .ok (m.storeAt r bytes) :=
  foldlM_eq_ok (fun m (b, k) => by simp only [write_indexed]; rfl) _ _

/-- The low four bits of a byte are the code of a key. -/
theorem Keypad.read_keyOf (k : Keypad) (b : UInt8) :
    k.read ((b.toNat : Int) % 16) = .ok (k.byte (Machine.keyOf b)) := by
  have hkey : Nibble.ofInt? ((b.toNat : Int) % 16) = some (Machine.keyOf b) := by
    rw [Nibble.ofInt?_eq_some, Machine.keyOf, Nibble.val_low]
  simp only [read, key, hkey]
  rfl

/-- A scan of the keypad never looks at a key that is not there. -/
theorem Keypad.first_limit (k : Keypad) (mode : KeyScan) :
    k.first mode.limit = .ok (k.firstDown mode.limit) := by
  have := mode.limit_le
  rw [first, if_pos (by omega), Int.toNat_natCast]

/-- A key is down just if its byte is not zero. -/
theorem Keypad.byte_bne_zero (k : Keypad) (key : Nibble) : (k.byte key != 0) = k.isDown key := by
  unfold byte
  cases k.isDown key <;> rfl

/-! ### Registers from memory -/

/-- Loading listed registers one after the other replaces these and leaves the others. -/
theorem Registers.foldl_load (memory : Memory 4096) (xs : List Register) (r : Registers) :
    ∃ v, xs.foldl (fun r x => r.set x (memory.get (r.indexed x.val))) r = { r with v } ∧
      (∀ z ∈ xs, Cells.get v z = memory.get (r.indexed z.val)) ∧
      ∀ z ∉ xs, Cells.get v z = r.get z := by
  induction xs generalizing r with
  | nil => exact ⟨r.v, rfl, fun z hz => absurd hz List.not_mem_nil, fun _ _ => rfl⟩
  | cons x xs ih =>
    obtain ⟨v, hv, hmem, hnot⟩ := ih (r.set x (memory.get (r.indexed x.val)))
    refine ⟨v, hv, fun z hz => ?_, fun z hz => ?_⟩
    · by_cases hzx : z ∈ xs
      · exact hmem z hzx
      · obtain rfl : z = x := (List.mem_cons.1 hz).resolve_right hzx
        rw [hnot z hzx, get_set_self]
    · rw [List.mem_cons, not_or] at hz
      rw [hnot z hz.2, get_set, if_neg (Ne.symm hz.1)]

/-- No load of registers from the index register on is refused, and together they load the block. -/
theorem Registers.loadChecked_eq (r : Registers) (memory : Memory 4096) (last : Register) :
    r.loadChecked memory (Register.upTo last) =
      .ok { r with v := Vector.ofFn fun k : Register =>
        if k ≤ last then memory.get (r.indexed k.val) else r.get k } := by
  obtain ⟨v, hv, hmem, hnot⟩ := foldl_load memory (Register.upTo last) r
  have hchecked : r.loadChecked memory (Register.upTo last) =
      .ok ((Register.upTo last).foldl (fun r x => r.set x (memory.get (r.indexed x.val))) r) :=
    foldlM_eq_ok (fun r x => by rw [memory.read_indexed]; rfl) _ _
  have hloaded : v = Vector.ofFn fun k : Register =>
      if k ≤ last then memory.get (r.indexed k.val) else r.get k := by
    refine Cells.ext_get fun z => ?_
    rw [Cells.get, Cells.get, Fin.getElem_fin, Fin.getElem_fin, Vector.getElem_ofFn]
    by_cases hz : z ≤ last
    · rw [if_pos hz]
      exact hmem z (Register.mem_upTo.2 hz)
    · rw [if_neg hz]
      exact hnot z (mt Register.mem_upTo.1 hz)
  rw [hchecked, hv, hloaded]

/-! ### Sprites -/

section Draw

variable {width height : Nat}

/-- What a lit pixel does to the screen and to the mark of a collision. -/
def touch (screen : Screen width height × Bool) (p : Fin width × Fin height) :
    Screen width height × Bool :=
  (screen.1.flip p.1 p.2, screen.2 || screen.1.get p.1 p.2)

/-- A pixel that lies on the screen is never refused. -/
theorem Screen.toggle_eq (s : Screen width height) (p : Fin width × Fin height) :
    s.toggle (p.1.val : Nat) (p.2.val : Nat) = .ok (s.flip p.1 p.2, s.get p.1 p.2) := by
  rw [toggle, point?_eq_some.2 ⟨rfl, rfl⟩]

/-- A row below the lower edge has no points. -/
theorem rowPoints_eq_nil (x : Nat) {y : Nat} (hy : height ≤ y) (row : UInt8) :
    Sprite.rowPoints width height x y row = [] := by
  rw [Sprite.rowPoints, List.filterMap_eq_nil_iff]
  intro column _
  rw [dif_neg (by omega)]

/-- A row flips its points, all of which lie on the screen. -/
theorem drawRowChecked_eq (r : Registers) (memory : Memory 4096) (x y : Nat)
    (screen : Screen width height × Bool) (k : Nat) :
    drawRowChecked r memory x y screen k =
      .ok ((Sprite.rowPoints width height x (y + k) (memory.get (r.indexed k))).foldl touch
        screen) := by
  unfold drawRowChecked
  by_cases hy : height ≤ y + k
  · rw [if_pos hy, rowPoints_eq_nil x hy]
    rfl
  · rw [if_neg hy, memory.read_indexed, Sprite.rowPoints, List.foldl_filterMap]
    refine foldlM_eq_ok (fun screen column => ?_) _ _
    by_cases hx : width ≤ x + column
    · rw [if_pos hx, dif_neg (by omega)]
      rfl
    · rw [if_neg hx, dif_pos ⟨by omega, by omega⟩]
      cases Sprite.lit (memory.get (r.indexed k)) column with
      | false => rfl
      | true =>
        rw [if_pos rfl, if_pos rfl,
          Screen.toggle_eq screen.1 (⟨x + column, by omega⟩, ⟨y + k, by omega⟩)]
        rfl

/-- What is made of the numbers from zero on is numbered by them. -/
theorem zipIdx_map_range {α : Type} (f : Nat → α) (n : Nat) :
    ((List.range n).map f).zipIdx = (List.range n).map fun k => (f k, k) := by
  rw [List.zipIdx_eq_zip_range', List.length_map, List.length_range, ← List.range_eq_range']
  simpa using List.zip_map' (f := f) (g := id) (l := List.range n)

/-- No pixel of a sprite that is drawn is refused, and no byte of it, wherever it is taken from. -/
theorem drawChecked_eq (ins : Instruction) (r : Registers) (memory : Memory 4096)
    (screen : Screen width height) :
    drawChecked ins r memory screen = .ok (drawSprite ins r memory screen) := by
  have hflip : ∀ (s : Screen width height) points,
      s.flipAll points = points.foldl touch (s, false) := fun _ _ => rfl
  simp only [drawSprite, drawChecked, hflip, Sprite.points, zipIdx_map_range, List.flatMap_map,
    List.foldl_flatMap, foldlM_eq_ok (drawRowChecked_eq r memory _ _)]
  rfl

end Draw

/-! ### The cycle -/

namespace Machine

/-- **No access of an instruction is refused**, so the checks change nothing. -/
theorem executeChecked_eq (m : Machine) (ins : Instruction) :
    m.executeChecked ins = .ok (m.execute ins) := by
  cases hk : ins.kind <;> simp only [executeChecked, execute, hk]
  case draw =>
    rw [drawChecked_eq]
    rfl
  case skipKeyDown | skipKeyUp =>
    rw [Keypad.read_keyOf, ← Keypad.byte_bne_zero]
    rfl
  case awaitKey =>
    rw [Keypad.first_limit]
    rfl
  case storeDigits | storeRegisters =>
    rw [Memory.storeChecked_eq]
    rfl
  case loadRegisters =>
    rw [Registers.loadChecked_eq]
    rfl
  all_goals rfl

/-- **No access of a cycle is refused.**  In any state at all, the cycle that goes through the
host's checked accesses comes to the end, and to the same as the cycle that needs no checks. -/
theorem cycleChecked_eq (m : Machine) : m.cycleChecked = .ok m.cycle := by
  unfold cycleChecked cycle
  cases m.halted with
  | true => rfl
  | false =>
    cases m.regs.keyWait with
    | some register =>
      simp only [Keypad.first_limit]
      rfl
    | none =>
      simp only [Memory.word_eq_wordAt, executeCycle, nextInstruction, executeChecked_eq]
      rfl

end Machine
end Chip8
