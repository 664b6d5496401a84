/-
# The screen

A rectangle of pixels that are on or off.  A pixel is only ever flipped, never
set, and flipping tells whether it was on before: that is how a program learns
of a collision.  The screen also remembers whether anything was flipped or
cleared since the host last asked (the *dirty* flag), so the host draws a frame
only when there is a new one.

Coordinates in range are `Fin width` and `Fin height`; the host's checked access
takes any integers and refuses those outside without changing anything.
-/

import Chip8.Cells

namespace Chip8

/-- Pixels in rows from top to bottom, and whether they may have changed since the last look. -/
structure Screen (width height : Nat) where
  rows : Vector (Vector Bool width) height
  dirty : Bool
  deriving DecidableEq, Repr

/-- The refusal of a pixel outside the screen. -/
structure PixelError where
  x : Int
  y : Int
  width : Nat
  height : Nat
  deriving DecidableEq, Repr

/-- The wording of the refusal. -/
def PixelError.message (e : PixelError) : String :=
  s!"Pixel ({e.x}, {e.y}) out of bounds for {e.width}x{e.height} frame buffer."

namespace Screen

variable {width height : Nat}

/-- The sides as natural numbers, if both are positive. -/
def sides? (width height : Int) : Option ({ w : Nat // 0 < w } × { h : Nat // 0 < h }) :=
  if h : 0 < width ∧ 0 < height then
    some (⟨width.toNat, by omega⟩, ⟨height.toNat, by omega⟩)
  else none

/-- The sides of the screen that is made. -/
def sides (width height : Int) :
    Except SizeError ({ w : Nat // 0 < w } × { h : Nat // 0 < h }) :=
  match sides? width height with
  | none => .error .notPositive
  | some (w, h) => do
    Cells.checkSize (w * h)
    return (w, h)

/-- What is said of sides that are not both positive. -/
def refusal : String := "FrameBuffer dimensions must be positive."

/-- All pixels off, nothing to draw. -/
def blank (width height : Nat) : Screen width height :=
  ⟨Vector.replicate height (Vector.replicate width false), false⟩

/-- Whether a pixel is on. -/
def get (s : Screen width height) (x : Fin width) (y : Fin height) : Bool :=
  Cells.get (Cells.get s.rows y) x

/-- The screen with one pixel flipped. -/
def flip (s : Screen width height) (x : Fin width) (y : Fin height) : Screen width height :=
  ⟨Cells.set s.rows y (Cells.set (Cells.get s.rows y) x (!s.get x y)), true⟩

/-- All pixels off; there is something to draw. -/
def clear (_ : Screen width height) : Screen width height :=
  { blank width height with dirty := true }

/-- Reads the dirty flag and puts it out. -/
def takeDirty (s : Screen width height) : Screen width height × Bool :=
  ({ s with dirty := false }, s.dirty)

/-- On a blank screen no pixel is on. -/
@[simp] theorem get_blank (x : Fin width) (y : Fin height) :
    (blank width height).get x y = false := by
  simp [get, blank]

/-- On a screen that was wiped no pixel is on. -/
@[simp] theorem get_clear (s : Screen width height) (x : Fin width) (y : Fin height) :
    s.clear.get x y = false := by
  simp [get, clear, blank]

/-- To ask for a new frame changes no pixel. -/
@[simp] theorem get_takeDirty (s : Screen width height) (x : Fin width) (y : Fin height) :
    s.takeDirty.1.get x y = s.get x y := rfl

/-- A flip is something to draw. -/
@[simp] theorem dirty_flip (s : Screen width height) (x : Fin width) (y : Fin height) :
    (s.flip x y).dirty = true := rfl

/-- A flip changes one pixel and no other. -/
theorem get_flip (s : Screen width height) (x x' : Fin width) (y y' : Fin height) :
    (s.flip x y).get x' y' = ((s.get x' y').xor (decide (x = x' ∧ y = y'))) := by
  by_cases hy : y = y'
  · subst hy
    by_cases hx : x = x'
    · subst hx; simp [get, flip]
    · simp [get, flip, Cells.get_set, hx]
  · simp [get, flip, Cells.get_set, hy]

/-- Screens with the same pixels and the same flag are equal. -/
theorem ext_get {s t : Screen width height} (h : ∀ x y, s.get x y = t.get x y)
    (hd : s.dirty = t.dirty) : s = t := by
  cases s; cases t
  simp only [mk.injEq]
  exact ⟨Cells.ext_get fun y => Cells.ext_get fun x => h x y, hd⟩

/-- The coordinates as indices, if they lie on the screen. -/
def point? (width height : Nat) (x y : Int) : Option (Fin width × Fin height) :=
  if h : (0 ≤ x ∧ x < width) ∧ (0 ≤ y ∧ y < height) then
    some (⟨x.toNat, by omega⟩, ⟨y.toNat, by omega⟩)
  else none

/-- The coordinates that name a pixel are those of its column and its row. -/
theorem point?_eq_some {x y : Int} {p : Fin width × Fin height} :
    point? width height x y = some p ↔ x = (p.1 : Nat) ∧ y = (p.2 : Nat) := by
  unfold point?
  split
  · simp [Prod.ext_iff, Fin.ext_iff]; omega
  · simp; omega

/-- Whether the pixel at any integer coordinates is on, or the refusal. -/
def read (s : Screen width height) (x y : Int) : Except PixelError Bool :=
  match point? width height x y with
  | some (i, j) => .ok (s.get i j)
  | none => .error ⟨x, y, width, height⟩

/-- Flips the pixel at any integer coordinates and tells whether it was on, or refuses. -/
def toggle (s : Screen width height) (x y : Int) :
    Except PixelError (Screen width height × Bool) :=
  match point? width height x y with
  | some (i, j) => .ok (s.flip i j, s.get i j)
  | none => .error ⟨x, y, width, height⟩

/-- Flips the listed pixels one after the other and tells whether one of them was on. -/
def flipAll (s : Screen width height) (points : List (Fin width × Fin height)) :
    Screen width height × Bool :=
  points.foldl (fun (s, hit) (x, y) => (s.flip x y, hit || s.get x y)) (s, false)

end Screen
end Chip8
