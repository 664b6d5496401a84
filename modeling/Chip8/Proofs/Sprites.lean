/-
# What a sprite does to the screen

A sprite is drawn point by point, row after row, and stops at the edges of the
screen.  What comes of it can be said without any order: `Sprite.covers` tells for
each pixel whether the sprite has a lit point there, from the corner, the number of
rows and the memory alone.  A pixel is flipped just if it is covered.

The reason is that no pixel is met twice (`nodup_points`).  So each is met as it was
before the drawing, the collision flag can be read off the old screen
(`hit_foldl_touch`), and a screen on which a point was drawn has changed
(`execute_decode_draw`).  All this holds of screens of any size.
-/

import Mathlib.Data.List.Nodup
import Chip8.Proofs.Access

namespace Chip8

/-- Whether a sprite of so many rows, at `i` in memory and with its corner at `(x, y)`, has a lit
point at a pixel of the screen.  What lies past the right or the lower edge is no pixel, and so it
is cut off. -/
def Sprite.covers (memory : Memory 4096) (i : Int) (rows x y px py : Nat) : Bool :=
  decide (x ≤ px ∧ px < x + 8 ∧ y ≤ py ∧ py < y + rows) &&
    (memory.get (Address.wrap (i + py - y))).toNat.testBit (7 - (px - x))

/-! ### Flipping points -/

namespace Screen

variable {width height : Nat} {points : List (Fin width × Fin height)}

theorem flipAll_eq_foldl (s : Screen width height) (points : List (Fin width × Fin height)) :
    s.flipAll points = points.foldl touch (s, false) := rfl

/-- Points that are all different are flipped once each. -/
theorem get_foldl_touch (hpoints : points.Nodup) (drawn : Screen width height × Bool)
    (x : Fin width) (y : Fin height) :
    (points.foldl touch drawn).1.get x y ≠ drawn.1.get x y ↔ (x, y) ∈ points := by
  induction points generalizing drawn with
  | nil => simp
  | cons p points ih =>
    obtain ⟨hp, hrest⟩ := List.nodup_cons.1 hpoints
    have hlater := ih hrest (touch drawn p)
    rw [touch, get_flip] at hlater
    rw [List.foldl_cons, List.mem_cons, touch]
    by_cases hxy : (x, y) = p
    · subst hxy
      -- It was flipped once, and no later point is the same.
      have hsame := not_not.1 (mt hlater.1 hp)
      simp [hsame]
    · have hne : ¬(p.1 = x ∧ p.2 = y) := fun h => hxy (Prod.ext h.1.symm h.2.symm)
      rw [decide_eq_false hne, Bool.xor_false] at hlater
      rw [hlater, or_iff_right hxy]

/-- The collision mark is made by a point that was on before the first one was flipped. -/
theorem hit_foldl_touch (hpoints : points.Nodup) (drawn : Screen width height × Bool) :
    (points.foldl touch drawn).2 = true ↔
      drawn.2 = true ∨ ∃ p ∈ points, drawn.1.get p.1 p.2 = true := by
  induction points generalizing drawn with
  | nil => simp
  | cons p points ih =>
    obtain ⟨hp, hrest⟩ := List.nodup_cons.1 hpoints
    -- The points after the first are others than the first.
    have hlater : ∀ q ∈ points, (drawn.1.flip p.1 p.2).get q.1 q.2 = drawn.1.get q.1 q.2 := by
      intro q hq
      have hne : ¬(p.1 = q.1 ∧ p.2 = q.2) := fun h => hp (Prod.ext h.1 h.2 ▸ hq)
      simp [get_flip, hne]
    rw [List.foldl_cons, ih hrest, touch, Bool.or_eq_true, or_assoc, List.exists_mem_cons_iff]
    refine or_congr_right (or_congr_right (exists_congr fun q => and_congr_right fun hq => ?_))
    rw [hlater q hq]

/-- There is something to draw just if there was before or a pixel is touched. -/
theorem dirty_foldl_touch (points : List (Fin width × Fin height))
    (drawn : Screen width height × Bool) :
    (points.foldl touch drawn).1.dirty = (drawn.1.dirty || !points.isEmpty) := by
  induction points generalizing drawn with
  | nil => simp
  | cons p points ih => simp [ih, touch]

end Screen

/-! ### The points of a sprite -/

namespace Sprite

variable {width height : Nat}

/-- The points of a row are those on the screen whose column in it is lit. -/
theorem mem_rowPoints {x y : Nat} {row : UInt8} {p : Fin width × Fin height} :
    p ∈ rowPoints width height x y row ↔
      p.2.val = y ∧ x ≤ p.1.val ∧ p.1.val < x + 8 ∧ lit row (p.1.val - x) = true := by
  obtain ⟨px, py⟩ := p
  simp only [rowPoints, List.mem_filterMap, List.mem_range]
  constructor
  · rintro ⟨column, hcolumn, hp⟩
    split at hp
    · split at hp
      · rename_i hon hlit
        obtain ⟨hpx, hpy⟩ := Prod.mk.inj (Option.some.inj hp)
        have hx : x + column = px.val := congrArg Fin.val hpx
        have hshift : px.val - x = column := by omega
        rw [hshift]
        exact ⟨(congrArg Fin.val hpy).symm, by omega, by omega, hlit⟩
      · cases hp
    · cases hp
  · rintro ⟨rfl, hlow, hhigh, hlit⟩
    have hcolumn : x + (px.val - x) = px.val := by omega
    refine ⟨px.val - x, by omega, ?_⟩
    rw [dif_pos ⟨by omega, py.isLt⟩, if_pos hlit]
    simp [hcolumn]

/-- No point occurs twice in a row. -/
theorem nodup_rowPoints (x y : Nat) (row : UInt8) : (rowPoints width height x y row).Nodup := by
  refine List.nodup_range.filterMap fun column other p hp hq => ?_
  split at hp
  · split at hp
    · split at hq
      · split at hq
        · -- The same point lies in the same column.
          have hcolumn := congrArg (fun q => q.map fun q => q.1.val)
            ((Option.mem_def.1 hp).trans (Option.mem_def.1 hq).symm)
          simpa using hcolumn
        · cases hq
      · cases hq
    · cases hp
  · cases hp

section Points

variable {n x y : Nat} {row : Nat → UInt8}

/-- The rows of a sprite stand below each other. -/
theorem points_map_range (n x y : Nat) (row : Nat → UInt8) :
    points width height x y ((List.range n).map row) =
      (List.range n).flatMap fun k => rowPoints width height x (y + k) (row k) := by
  rw [points, zipIdx_map_range, List.flatMap_map]

/-- The points of a sprite are those on the screen whose row and column in it are lit. -/
theorem mem_points {p : Fin width × Fin height} :
    p ∈ points width height x y ((List.range n).map row) ↔
      (x ≤ p.1.val ∧ p.1.val < x + 8 ∧ y ≤ p.2.val ∧ p.2.val < y + n) ∧
        lit (row (p.2.val - y)) (p.1.val - x) = true := by
  simp only [points_map_range, List.mem_flatMap, List.mem_range, mem_rowPoints]
  constructor
  · rintro ⟨k, hk, hrow, hlow, hhigh, hlit⟩
    have hk' : p.2.val - y = k := by omega
    rw [hk']
    exact ⟨by omega, hlit⟩
  · rintro ⟨⟨hlow, hhigh, htop, hbottom⟩, hlit⟩
    exact ⟨p.2.val - y, by omega, by omega, hlow, hhigh, hlit⟩

/-- **No pixel is met twice.** -/
theorem nodup_points (n x y : Nat) (row : Nat → UInt8) :
    (points width height x y ((List.range n).map row)).Nodup := by
  rw [points_map_range, List.nodup_flatMap]
  refine ⟨fun k _ => nodup_rowPoints x (y + k) (row k), ?_⟩
  refine List.pairwise_lt_range.imp fun {j k} hjk => List.disjoint_left.2 fun p hj hk => ?_
  have hj := (mem_rowPoints.1 hj).1
  have hk := (mem_rowPoints.1 hk).1
  omega

/-- The points of the sprite at the index register are the pixels that it covers. -/
theorem mem_points_iff_covers {memory : Memory 4096} {r : Registers}
    {p : Fin width × Fin height} :
    p ∈ points width height x y ((List.range n).map fun k => memory.get (r.indexed k)) ↔
      covers memory r.i n x y p.1.val p.2.val = true := by
  rw [mem_points, covers, Bool.and_eq_true, decide_eq_true_eq]
  refine and_congr_right fun hinside => ?_
  have haddress : r.indexed (p.2.val - y) = Address.wrap (r.i + p.2.val - y) := by
    have hrow : r.i + ((p.2.val - y : Nat) : Int) = r.i + p.2.val - y := by omega
    rw [Registers.indexed, hrow]
  rw [haddress, lit]

end Points

end Sprite

/-! ### The instruction -/

/-- The instruction of an opcode `Dxyn` draws, and has its three operands. -/
theorem Instruction.decode_draw {opcode : Int} {x y n : Nibble}
    (h : opcode % 65536 = 0xD000 + 0x100 * x.val + 0x10 * y.val + n.val) :
    (decode opcode).kind = .draw ∧ (decode opcode).x = x ∧ (decode opcode).y = y ∧
      (decode opcode).n = n := by
  have hkind : (opcode % 65536).toNat / 4096 = 0xD := by omega
  refine ⟨?_, ?_, ?_, ?_⟩
  · simp only [decode, Kind.ofOpcode, hkind]
  · simp only [Instruction.x, Nibble.low, opcode_decode, Fin.ext_iff]
    omega
  · simp only [Instruction.y, Nibble.low, opcode_decode, Fin.ext_iff]
    omega
  · simp only [Instruction.n, Nibble.low, opcode_decode, Fin.ext_iff]
    omega

section Draw

variable {width height : Nat}

/-- Every pixel that the sprite covers is flipped, and no other. -/
theorem get_drawSprite (ins : Instruction) (r : Registers) (memory : Memory 4096)
    (screen : Screen width height) (px : Fin width) (py : Fin height) :
    (drawSprite ins r memory screen).2.get px py =
      (screen.get px py).xor (Sprite.covers memory r.i ins.n.val ((r.get ins.x).toNat % width)
        ((r.get ins.y).toNat % height) px.val py.val) := by
  have hflipped : (drawSprite ins r memory screen).2.get px py ≠ screen.get px py ↔
      Sprite.covers memory r.i ins.n.val ((r.get ins.x).toNat % width)
        ((r.get ins.y).toNat % height) px.val py.val = true :=
    (Screen.get_foldl_touch (Sprite.nodup_points _ _ _ _) (screen, false) px py).trans
      Sprite.mem_points_iff_covers
  cases hcovers : Sprite.covers memory r.i ins.n.val ((r.get ins.x).toNat % width)
      ((r.get ins.y).toNat % height) px.val py.val with
  | false =>
    rw [hcovers] at hflipped
    rw [Bool.xor_false]
    exact not_not.1 (mt hflipped.1 Bool.false_ne_true)
  | true =>
    rw [Bool.xor_true]
    exact Bool.eq_not_of_ne (hflipped.2 hcovers)

/-- The flag tells whether a pixel that was on has been put out, and no other register changes. -/
theorem exists_drawSprite_fst_eq (ins : Instruction) (r : Registers) (memory : Memory 4096)
    (screen : Screen width height) :
    ∃ hit, (drawSprite ins r memory screen).1 = r.set Registers.flag (if hit then 1 else 0) ∧
      (hit = true ↔ ∃ px py, screen.get px py = true ∧
        (drawSprite ins r memory screen).2.get px py = false) := by
  let points := Sprite.points width height ((r.get ins.x).toNat % width)
    ((r.get ins.y).toNat % height) ((List.range ins.n.val).map fun k => memory.get (r.indexed k))
  refine ⟨(screen.flipAll points).2, rfl, ?_⟩
  rw [Screen.flipAll_eq_foldl, Screen.hit_foldl_touch (Sprite.nodup_points _ _ _ _)]
  constructor
  · rintro (hmark | ⟨p, hp, hon⟩)
    · exact absurd hmark Bool.false_ne_true
    · refine ⟨p.1, p.2, hon, ?_⟩
      rw [get_drawSprite, Sprite.mem_points_iff_covers.1 hp, hon]
      rfl
  · rintro ⟨px, py, hon, hoff⟩
    rw [get_drawSprite, hon, Bool.true_xor, Bool.not_eq_false'] at hoff
    exact .inr ⟨(px, py), Sprite.mem_points_iff_covers.2 hoff, hon⟩

/-- The screen is marked if it was, or if a pixel has changed. -/
theorem dirty_drawSprite (ins : Instruction) (r : Registers) (memory : Memory 4096)
    (screen : Screen width height) :
    (drawSprite ins r memory screen).2.dirty = true ↔ screen.dirty = true ∨
      ∃ px py, (drawSprite ins r memory screen).2.get px py ≠ screen.get px py := by
  have hchanged : ∀ px py, (drawSprite ins r memory screen).2.get px py ≠ screen.get px py ↔
      (px, py) ∈ Sprite.points width height ((r.get ins.x).toNat % width)
        ((r.get ins.y).toNat % height)
        ((List.range ins.n.val).map fun k => memory.get (r.indexed k)) := by
    intro px py
    exact Screen.get_foldl_touch (Sprite.nodup_points _ _ _ _) (screen, false) px py
  simp only [hchanged]
  rw [drawSprite, Screen.flipAll_eq_foldl, Screen.dirty_foldl_touch, Bool.or_eq_true,
    Bool.not_eq_true', List.isEmpty_eq_false_iff_exists_mem]
  refine or_congr_right ⟨?_, ?_⟩
  · rintro ⟨p, hp⟩
    exact ⟨p.1, p.2, hp⟩
  · rintro ⟨px, py, hp⟩
    exact ⟨(px, py), hp⟩

/-- **What a sprite does.**  An opcode `Dxyn` draws on a screen of any size.  The corner of the
sprite is at what `Vx` and `Vy` held before, modulo the sides of the screen, and every access of
the drawing is one that is not refused.  The pixels that the sprite covers are flipped and no
others.  The flag register is one if a pixel that was on is off now, and else zero.  The screen is
marked if it was marked before or a pixel has changed.  Of a machine nothing else changes. -/
theorem execute_decode_draw {opcode : Int} {x y n : Nibble}
    (h : opcode % 65536 = 0xD000 + 0x100 * x.val + 0x10 * y.val + n.val)
    (r : Registers) (memory : Memory 4096) (screen : Screen width height) :
    let ins := Instruction.decode opcode
    let drawn := drawSprite ins r memory screen
    drawChecked ins r memory screen = .ok drawn ∧
      (∀ px py, drawn.2.get px py = (screen.get px py).xor
        (Sprite.covers memory r.i n.val ((r.get x).toNat % width) ((r.get y).toNat % height)
          px.val py.val)) ∧
      (∃ hit, drawn.1 = r.set Registers.flag (if hit then 1 else 0) ∧
        (hit = true ↔ ∃ px py, screen.get px py = true ∧ drawn.2.get px py = false)) ∧
      (drawn.2.dirty = true ↔
        screen.dirty = true ∨ ∃ px py, drawn.2.get px py ≠ screen.get px py) ∧
      ∀ m : Machine, m.execute ins =
        ({ m with
            regs := (drawSprite ins m.regs m.memory m.screen).1
            screen := (drawSprite ins m.regs m.memory m.screen).2 }, none) := by
  intro ins drawn
  obtain ⟨hkind, hx, hy, hn⟩ := Instruction.decode_draw h
  refine ⟨drawChecked_eq .., fun px py => ?_, exists_drawSprite_fst_eq .., dirty_drawSprite ..,
    fun m => ?_⟩
  · rw [get_drawSprite, hx, hy, hn]
  · simp only [Machine.execute, ins, hkind]

end Draw

/-- A sprite whose corner is in the last corner of the screen, at what the flag register holds.
Its first row stands at the last address of the memory.  Just one point of it is on the screen. -/
theorem execute_decode_draw_corner :
    let r : Registers := { v := Vector.replicate 16 255, i := 0xFFF }
    let memory := (Memory.zero 4096).set (Address.wrap 0xFFF) 0xFF
    let drawn := drawSprite (.decode 0xDFF2) r memory (Screen.blank 64 32)
    (0xDFF2 : Int) % 65536 = 0xD000 + 0x100 * (15 : Nibble).val + 0x10 * (15 : Nibble).val +
        (2 : Nibble).val ∧
      drawn.2.get 63 31 = true ∧ drawn.2.get 0 31 = false ∧ drawn.2.get 63 0 = false ∧
      drawn.1.get Registers.flag = 0 := by
  intro r memory drawn
  have h : (0xDFF2 : Int) % 65536 = 0xD000 + 0x100 * (15 : Nibble).val +
      0x10 * (15 : Nibble).val + (2 : Nibble).val := by decide
  obtain ⟨-, hpixels, ⟨hit, hregs, hhit⟩, -⟩ :=
    execute_decode_draw h r memory (Screen.blank 64 32)
  have hnone : hit = false := by
    rw [← Bool.not_eq_true, hhit]
    rintro ⟨px, py, hon, -⟩
    rw [Screen.get_blank] at hon
    exact Bool.false_ne_true hon
  have hcorner : (r.get 15).toNat = 255 := by
    rw [show r.get 15 = 255 from Cells.get_replicate ..]
    rfl
  have hrow : memory.get (Address.wrap (0xFFF + 31 - 31)) = 0xFF := Memory.get_set_self ..
  refine ⟨h, ?_, ?_, ?_, ?_⟩
  · rw [hpixels, Screen.get_blank, Sprite.covers, hcorner]
    exact congrArg (fun row : UInt8 => (false ^^ (true && row.toNat.testBit 7))) hrow
  · rw [hpixels, Screen.get_blank, Sprite.covers, hcorner]
    rfl
  · rw [hpixels, Screen.get_blank, Sprite.covers, hcorner]
    rfl
  · rw [hregs, Registers.get_set_self, hnone]
    rfl

end Chip8
