/-
# Sprites drawn one after the other

What one sprite does to the screen is a mask laid over it by exclusive or
(`get_drawSprite`).  A mask depends on the index register, on the memory and on the
two registers that hold the corner, and drawing changes none of these but the flag
register.  So in a row of sprites whose corners are in other registers every mask
is that of the beginning (`mask_drawSprite`), and the row lays all of its masks over
the first screen (`get_drawSprites`).

All the rest is the algebra of exclusive or: the order does not matter, and a row
that is drawn twice leaves the pixels as they were, which is how games erase what
they have drawn.
-/

import Mathlib.Data.List.Perm.Basic
import Chip8.Proofs.Opcodes
import Chip8.Proofs.Sprites

namespace Chip8

/-- An instruction that draws, with the corner of its sprite in other registers than the flag
register. -/
structure Instruction.DrawsAside (ins : Instruction) : Prop where
  kind : ins.kind = .draw
  x : ins.x ≠ Registers.flag
  y : ins.y ≠ Registers.flag

/-- A sprite whose corner is not read from the flag register is drawn aside of it. -/
theorem Instruction.drawsAside_ofDigits {x y : Nibble} (hx : x ≠ 15) (hy : y ≠ 15) (n : Nibble) :
    (ofDigits 0xD x y n).DrawsAside where
  kind := kind_ofDigits_of_forall x y n (by decide) (by decide) (by decide)
  x := by rwa [x_ofDigits]
  y := by rwa [y_ofDigits]

/-- Carries out instructions one after the other, up to the first that breaks off. -/
def Machine.executeAll (m : Machine) : List Instruction → Machine × Option Stop
  | [] => (m, none)
  | ins :: rest =>
    match m.execute ins with
    | (next, none) => next.executeAll rest
    | stopped => stopped

section Draw

variable {width height : Nat}

/-- The pixels that the sprite of an instruction covers, as far as they are on the screen. -/
def Sprite.mask (ins : Instruction) (r : Registers) (memory : Memory 4096) (px : Fin width)
    (py : Fin height) : Bool :=
  covers memory r.i ins.n.val ((r.get ins.x).toNat % width) ((r.get ins.y).toNat % height)
    px.val py.val

/-- The masks of a row of sprites, laid over each other by exclusive or. -/
def Sprite.masks (row : List Instruction) (r : Registers) (memory : Memory 4096) (px : Fin width)
    (py : Fin height) : Bool :=
  (row.map fun ins => mask ins r memory px py).foldr xor false

/-- Draws a row of sprites. -/
def drawSprites (row : List Instruction) (r : Registers) (memory : Memory 4096)
    (screen : Screen width height) : Registers × Screen width height :=
  row.foldl (fun drawn ins => drawSprite ins drawn.1 memory drawn.2) (r, screen)

variable {ins : Instruction} {row : List Instruction} {r : Registers} {memory : Memory 4096}
  {screen : Screen width height} {px : Fin width} {py : Fin height}

/-! ### Masks -/

namespace Sprite

/-- The mask of a row of sprites is made up one by one. -/
theorem masks_cons : masks (ins :: row) r memory px py =
    xor (mask ins r memory px py) (masks row r memory px py) := rfl

/-- The mask of two rows is that of both together. -/
theorem masks_append (row more : List Instruction) : masks (row ++ more) r memory px py =
    xor (masks row r memory px py) (masks more r memory px py) := by
  induction row with
  | nil => exact (Bool.false_xor _).symm
  | cons ins row ih => rw [List.cons_append, masks_cons, ih, masks_cons, Bool.xor_assoc]

/-- In which order sprites are drawn makes no difference to their mask. -/
theorem masks_perm {other : List Instruction} (h : other.Perm row) :
    masks other r memory px py = masks row r memory px py := by
  have hcomm : LeftCommutative xor := ⟨Bool.xor_left_comm⟩
  exact (h.map _).foldr_eq false

/-- Drawing does not move a sprite whose corner is in other registers than the flag register. -/
theorem mask_drawSprite {other : Instruction} (h : other.DrawsAside) :
    mask other (drawSprite ins r memory screen).1 memory px py = mask other r memory px py := by
  have hx : (drawSprite ins r memory screen).1.get other.x = r.get other.x :=
    (r.get_set _ _ _).trans (if_neg (Ne.symm h.x))
  have hy : (drawSprite ins r memory screen).1.get other.y = r.get other.y :=
    (r.get_set _ _ _).trans (if_neg (Ne.symm h.y))
  rw [mask, mask, hx, hy]
  rfl

/-- To draw a sprite changes the flag only, and so not where others are drawn. -/
theorem masks_drawSprite (h : ∀ other ∈ row, other.DrawsAside) :
    masks row (drawSprite ins r memory screen).1 memory px py = masks row r memory px py :=
  congrArg (List.foldr xor false) (List.map_congr_left fun other hother =>
    mask_drawSprite (h other hother))

end Sprite

/-! ### The row -/

/-- **A row of sprites lays all of its masks over the screen.** -/
theorem get_drawSprites (h : ∀ ins ∈ row, ins.DrawsAside) :
    (drawSprites row r memory screen).2.get px py =
      xor (screen.get px py) (Sprite.masks row r memory px py) := by
  induction row generalizing r screen with
  | nil => exact (Bool.xor_false _).symm
  | cons ins row ih =>
    obtain ⟨-, hrest⟩ := List.forall_mem_cons.1 h
    calc (drawSprites (ins :: row) r memory screen).2.get px py
        = xor ((drawSprite ins r memory screen).2.get px py)
            (Sprite.masks row (drawSprite ins r memory screen).1 memory px py) := ih hrest
      _ = xor (xor (screen.get px py) (Sprite.mask ins r memory px py))
            (Sprite.masks row r memory px py) := by
          rw [get_drawSprite, Sprite.masks_drawSprite hrest]
          rfl
      _ = xor (screen.get px py) (Sprite.masks (ins :: row) r memory px py) := by
          rw [Bool.xor_assoc, Sprite.masks_cons]

/-- When a sprite is drawn once more, the flag tells whether the first time has left a pixel on that
the sprite covers. -/
theorem flag_drawSprite_twice (h : ins.DrawsAside) :
    let once := drawSprite ins r memory screen
    (drawSprite ins once.1 memory once.2).1.get Registers.flag = 1 ↔
      ∃ px py, Sprite.mask ins r memory px py = true ∧ once.2.get px py = true := by
  intro once
  obtain ⟨hit, hregs, hhit⟩ := exists_drawSprite_fst_eq ins once.1 memory once.2
  have hflag : (drawSprite ins once.1 memory once.2).1.get Registers.flag = 1 ↔ hit = true := by
    rw [hregs, Registers.get_set_self]
    cases hit <;> decide
  rw [hflag, hhit]
  refine exists_congr fun px => exists_congr fun py => ?_
  have hpixel : (drawSprite ins once.1 memory once.2).2.get px py =
      xor (once.2.get px py) (Sprite.mask ins r memory px py) := by
    rw [get_drawSprite, ← Sprite.mask_drawSprite h]
    rfl
  rw [hpixel]
  cases once.2.get px py <;> cases Sprite.mask ins r memory px py <;> decide

/-- Instructions that draw change the registers and the screen, as drawing does, and nothing else;
none of them stops the machine. -/
theorem Machine.executeAll_draws (h : ∀ ins ∈ row, ins.DrawsAside) (m : Machine) :
    m.executeAll row =
      ({ m with
          regs := (drawSprites row m.regs m.memory m.screen).1
          screen := (drawSprites row m.regs m.memory m.screen).2 }, none) := by
  induction row generalizing m with
  | nil => rfl
  | cons ins row ih =>
    obtain ⟨hins, hrest⟩ := List.forall_mem_cons.1 h
    simp only [executeAll, execute, hins.kind]
    exact ih hrest _

/-- **Sprites are laid over each other by exclusive or,** on a screen of any size, as long as no
corner is in the flag register.  The pixels after a row of sprites are the pixels before it under
the masks of all of them, each taken from the registers and the memory at the beginning.  So any
other order gives the same pixels, and the row drawn twice leaves them as they were.  When a sprite
is drawn twice running, the flag is one after the second time just if the first has left a pixel on
that the sprite covers.  A machine draws the row without breaking off and changes nothing else. -/
theorem execute_draws (h : ∀ ins ∈ row, ins.DrawsAside) (r : Registers) (memory : Memory 4096)
    (screen : Screen width height) :
    (∀ px py, (drawSprites row r memory screen).2.get px py =
        xor (screen.get px py) (Sprite.masks row r memory px py)) ∧
      (∀ other : List Instruction, other.Perm row → ∀ px py,
        (drawSprites other r memory screen).2.get px py =
          (drawSprites row r memory screen).2.get px py) ∧
      (∀ px py, (drawSprites (row ++ row) r memory screen).2.get px py = screen.get px py) ∧
      (∀ ins ∈ row, let once := drawSprite ins r memory screen
        (drawSprite ins once.1 memory once.2).1.get Registers.flag = 1 ↔
          ∃ px py, Sprite.mask ins r memory px py = true ∧ once.2.get px py = true) ∧
      ∀ m : Machine, m.executeAll row =
        ({ m with
            regs := (drawSprites row m.regs m.memory m.screen).1
            screen := (drawSprites row m.regs m.memory m.screen).2 }, none) := by
  refine ⟨fun px py => get_drawSprites h, fun other hperm px py => ?_, fun px py => ?_,
    fun ins hins => flag_drawSprite_twice (h ins hins), Machine.executeAll_draws h⟩
  · rw [get_drawSprites h, get_drawSprites fun ins hins => h ins (hperm.mem_iff.1 hins),
      Sprite.masks_perm hperm]
  · have htwice : ∀ ins ∈ row ++ row, ins.DrawsAside := fun ins hins =>
      h ins ((List.mem_append.1 hins).elim id id)
    rw [get_drawSprites htwice, Sprite.masks_append, Bool.xor_self, Bool.xor_false]

end Draw

/-- Three sprites at the same place in the last corner of the screen, their first row at the last
address of the memory.  Two of them cancel out, and what is cut off of the third one does not come
in again. -/
theorem execute_draws_corner :
    let r : Registers := { v := Vector.replicate 16 62, i := 0xFFF }
    let memory := (Memory.zero 4096).set (Address.wrap 0xFFF) 0xFF
    let row : List Instruction := [.ofDigits 0xD 0 1 2, .ofDigits 0xD 2 2 1, .ofDigits 0xD 1 0 1]
    let drawn := drawSprites row r memory (Screen.blank 64 32)
    let twice := drawSprites (row ++ row) r memory (Screen.blank 64 32)
    (∀ ins ∈ row, ins.DrawsAside) ∧
      drawn.2.get 63 30 = true ∧ drawn.2.get 0 30 = false ∧ twice.2.get 63 30 = false := by
  intro r memory row drawn twice
  have h : ∀ ins ∈ row, ins.DrawsAside := by
    intro ins hins
    simp only [row, List.mem_cons, List.not_mem_nil, or_false] at hins
    rcases hins with rfl | rfl | rfl <;>
      exact Instruction.drawsAside_ofDigits (by decide) (by decide) _
  obtain ⟨hpixels, -, htwice, -⟩ := execute_draws h r memory (Screen.blank 64 32)
  have hcorner : ∀ z, r.get z = 62 := fun z => Cells.get_replicate ..
  have hmasks : ∀ (px : Fin 64) (py : Fin 32), Sprite.masks row r memory px py =
      xor (Sprite.covers memory 0xFFF 2 62 30 px.val py.val)
        (xor (Sprite.covers memory 0xFFF 1 62 30 px.val py.val)
          (xor (Sprite.covers memory 0xFFF 1 62 30 px.val py.val) false)) := by
    intro px py
    simp only [row, Sprite.masks_cons, Sprite.mask, Instruction.x_ofDigits,
      Instruction.y_ofDigits, Instruction.n_ofDigits, hcorner]
    rfl
  have hrow : memory.get (Address.wrap (0xFFF + 30 - 30)) = 0xFF := Memory.get_set_self ..
  have hon : Sprite.covers memory 0xFFF 2 62 30 63 30 = true :=
    congrArg (fun row : UInt8 => (true && row.toNat.testBit 6)) hrow
  refine ⟨h, ?_, ?_, ?_⟩
  · rw [hpixels, Screen.get_blank, hmasks, Bool.xor_false, Bool.xor_self, Bool.xor_false,
      Bool.false_xor]
    exact hon
  · rw [hpixels, Screen.get_blank, hmasks]
    rfl
  · rw [htwice, Screen.get_blank]

end Chip8
