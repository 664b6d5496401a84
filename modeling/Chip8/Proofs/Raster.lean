/-
# The pixels of a screen in one row of bytes

A screen has rows and columns.  What a frame buffer has is one long row of bytes, the
pixel in column `x` of row `y` at `y * width + x`, and a pixel is on if its byte is not
zero.  `Raster` is the screen kept in that way, with an offset of its own for the
host's integers and another one for the rows that it shows.

Two pixels never share a byte, however wide the screen is (`place_inj`), and since a
byte is only ever zero or one, to flip its lowest bit is to flip the pixel.  So a
raster looks like a screen (`Raster.screen`), and each call of the host makes of both
the same and is answered alike (`Raster.serve_eq`).

What a host sees of either is then said by its calls alone: a pixel is on if it has
been flipped an odd number of times since the last clearing (`get_run_blank`,
`run_faithful`).
-/

import Mathlib.Data.List.DropRight
import Chip8.Screen

namespace Chip8

/-- Something that a host asks of a screen. -/
inductive ScreenCall where
  | clear
  | flip (x y : Int)
  | read (x y : Int)
  | rows
  | takeDirty
  deriving DecidableEq, Repr

/-- What the host gets back. -/
inductive ScreenReply where
  | done
  /-- The pixel is on, or was on before it was flipped. -/
  | pixel (on : Bool)
  | rows (rows : List (List Bool))
  | dirty (flag : Bool)
  | refused (e : PixelError)
  deriving DecidableEq, Repr

namespace ScreenCall

/-- How often a session has flipped a pixel since the last time that all were put out, or since its
beginning. -/
def flips (calls : List ScreenCall) (x y : Int) : Nat :=
  (calls.rtakeWhile (· ≠ .clear)).count (.flip x y)

/-- Whether the pixel has been flipped an odd number of times. -/
def lit (calls : List ScreenCall) (x y : Int) : Bool := flips calls x y % 2 = 1

variable {calls : List ScreenCall} {c : ScreenCall} {x y : Int}

/-- Right after a clearing no pixel is lit. -/
theorem lit_append_clear : lit (calls ++ [.clear]) x y = false := by
  rw [lit, flips, List.rtakeWhile_concat_neg _ _ _ (by simp)]
  rfl

/-- Any other call lights or puts out a pixel just if it flips it. -/
theorem lit_append (hc : c ≠ .clear) :
    lit (calls ++ [c]) x y = (lit calls x y).xor (decide (c = .flip x y)) := by
  have hcount : flips (calls ++ [c]) x y = flips calls x y + if c = .flip x y then 1 else 0 := by
    rw [flips, List.rtakeWhile_concat_pos _ _ _ (by simpa using hc), List.count_append,
      List.count_singleton, flips]
    simp only [beq_iff_eq]
  rw [lit, hcount, lit]
  by_cases hflip : c = .flip x y
  · rw [if_pos hflip, decide_eq_true hflip, Bool.xor_true, ← decide_not, decide_eq_decide]
    omega
  · rw [if_neg hflip, decide_eq_false hflip, Bool.xor_false, Nat.add_zero]

end ScreenCall

/-! ### The screen -/

namespace Screen

variable {width height : Nat}

/-- Answers a call. -/
def serve (s : Screen width height) : ScreenCall → Screen width height × ScreenReply
  | .clear => (s.clear, .done)
  | .flip x y =>
    match s.toggle x y with
    | .ok (next, was) => (next, .pixel was)
    | .error e => (s, .refused e)
  | .read x y =>
    match s.read x y with
    | .ok on => (s, .pixel on)
    | .error e => (s, .refused e)
  | .rows => (s, .rows (s.rows.toList.map Vector.toList))
  | .takeDirty => (s.takeDirty.1, .dirty s.takeDirty.2)

/-- The screen at the end of a session. -/
def run (s : Screen width height) (calls : List ScreenCall) : Screen width height :=
  calls.foldl (fun s c => (s.serve c).1) s

/-- The last call of a session is served by what the others have left. -/
theorem run_concat (s : Screen width height) (calls : List ScreenCall) (c : ScreenCall) :
    s.run (calls ++ [c]) = ((s.run calls).serve c).1 := List.foldl_concat ..

variable {x y : Int}

/-- Coordinates name no pixel just if one of them is outside its side. -/
theorem point?_eq_none : point? width height x y = none ↔
    ¬((0 ≤ x ∧ x < width) ∧ (0 ≤ y ∧ y < height)) := by
  rw [point?]
  split <;> simp_all

/-- A flip on the screen tells what the pixel was before. -/
theorem serve_flip (s : Screen width height) {p : Fin width × Fin height}
    (hp : point? width height x y = some p) :
    s.serve (.flip x y) = (s.flip p.1 p.2, .pixel (s.get p.1 p.2)) := by
  simp only [serve, toggle, hp]

/-- A look at a pixel changes nothing. -/
theorem serve_read (s : Screen width height) {p : Fin width × Fin height}
    (hp : point? width height x y = some p) :
    s.serve (.read x y) = (s, .pixel (s.get p.1 p.2)) := by
  simp only [serve, read, hp]

/-- A pixel that is not on the screen is refused, and nothing changes. -/
theorem serve_of_outside (s : Screen width height) (hp : point? width height x y = none) :
    s.serve (.flip x y) = (s, .refused ⟨x, y, width, height⟩) ∧
      s.serve (.read x y) = (s, .refused ⟨x, y, width, height⟩) := by
  constructor
  · simp only [serve, toggle, hp]
  · simp only [serve, read, hp]

/-- **What a call does to a pixel:** short of putting all of them out, nothing, unless it is this one
that is flipped. -/
theorem get_serve (s : Screen width height) {c : ScreenCall} (hc : c ≠ .clear) (x : Fin width)
    (y : Fin height) :
    (s.serve c).1.get x y = (s.get x y).xor (decide (c = .flip x.val y.val)) := by
  cases c with
  | clear => exact absurd rfl hc
  | flip x' y' =>
    cases hp : point? width height x' y' with
    | none =>
      have hother : ScreenCall.flip x' y' ≠ .flip x.val y.val := by
        rintro ⟨rfl, rfl⟩
        have hon : point? width height x.val y.val = some (x, y) := point?_eq_some.2 ⟨rfl, rfl⟩
        rw [hp] at hon
        cases hon
      rw [(s.serve_of_outside hp).1, decide_eq_false hother, Bool.xor_false]
    | some p =>
      obtain ⟨rfl, rfl⟩ := point?_eq_some.1 hp
      rw [s.serve_flip hp, get_flip]
      congr 1
      rw [decide_eq_decide, ScreenCall.flip.injEq, Int.ofNat_inj, Int.ofNat_inj, Fin.ext_iff,
        Fin.ext_iff]
  | read x' y' =>
    cases hp : point? width height x' y' with
    | none => simp [s.serve_of_outside hp]
    | some p => simp [s.serve_read hp]
  | rows => simp [serve]
  | takeDirty => simp [serve]

/-- A flip of one pixel is not seen at any other. -/
theorem read_after_flip (s : Screen width height) {x y x' y' : Int} (hne : (x', y') ≠ (x, y)) :
    ((s.serve (.flip x y)).1.serve (.read x' y')).2 = (s.serve (.read x' y')).2 := by
  cases hp : point? width height x' y' with
  | none => rw [(serve_of_outside _ hp).2, (s.serve_of_outside hp).2]
  | some p =>
    obtain ⟨rfl, rfl⟩ := point?_eq_some.1 hp
    have hother : ScreenCall.flip x y ≠ .flip p.1.val p.2.val := by
      intro hsame
      obtain ⟨rfl, rfl⟩ := ScreenCall.flip.inj hsame
      exact hne rfl
    have hget : (s.serve (.flip x y)).1.get p.1 p.2 = s.get p.1 p.2 := by
      rw [s.get_serve (c := .flip x y) nofun, decide_eq_false hother, Bool.xor_false]
    rw [serve_read _ hp, s.serve_read hp, hget]

/-- The screen is shown in rows, and a pixel stands in its row and column. -/
theorem exists_serve_rows (s : Screen width height) :
    ∃ grid, s.serve .rows = (s, .rows grid) ∧ grid.length = height ∧
      (∀ row ∈ grid, row.length = width) ∧
      ∀ (x : Fin width) (y : Fin height), ∃ row, grid[y.val]? = some row ∧
        row[x.val]? = some (s.get x y) := by
  refine ⟨s.rows.toList.map Vector.toList, rfl, by simp, fun row hrow => ?_, fun x y => ?_⟩
  · obtain ⟨cells, -, rfl⟩ := List.mem_map.1 hrow
    exact Vector.length_toList
  · refine ⟨(Cells.get s.rows y).toList, ?_, ?_⟩
    · simp [Cells.get]
    · simp [get, Cells.get]

/-- **A pixel is what the flips since the last clearing make of it.** -/
theorem get_run_blank (calls : List ScreenCall) (x : Fin width) (y : Fin height) :
    ((blank width height).run calls).get x y = ScreenCall.lit calls x.val y.val := by
  -- What counts is the last clearing, so the induction adds calls at the end.
  induction calls using List.reverseRecOn with
  | nil => exact get_blank x y
  | append_singleton calls c ih =>
    rw [run_concat]
    by_cases hc : c = .clear
    · subst hc
      rw [ScreenCall.lit_append_clear]
      exact ((blank width height).run calls).get_clear x y
    · rw [get_serve _ hc, ih, ScreenCall.lit_append hc]

end Screen

/-! ### The raster -/

/-- The pixels of a screen in one row of bytes, each of them zero or one, and whether they may have
changed since the last look. -/
structure Raster (width height : Nat) where
  bytes : Vector UInt8 (width * height)
  dirty : Bool
  binary : ∀ k, Cells.get bytes k = 0 ∨ Cells.get bytes k = 1

namespace Raster

variable {width height : Nat}

/-- The place of a pixel in the row of bytes. -/
def place (x : Fin width) (y : Fin height) : Fin (width * height) :=
  ⟨y * width + x, calc
    y * width + x < y * width + width := Nat.add_lt_add_left x.isLt _
    _ = width * (y + 1) := by rw [Nat.mul_comm, Nat.mul_succ]
    _ ≤ width * height := Nat.mul_le_mul_left width y.isLt⟩

theorem val_place (x : Fin width) (y : Fin height) : (place x y).val = y * width + x := rfl

/-- The offset of coordinates on the screen stays inside the row of bytes. -/
theorem toNat_offset_lt {x y : Int} (h : (0 ≤ x ∧ x < width) ∧ (0 ≤ y ∧ y < height)) :
    (y * width + x).toNat < width * height := by
  obtain ⟨i, rfl⟩ := Int.eq_ofNat_of_zero_le h.1.1
  obtain ⟨j, rfl⟩ := Int.eq_ofNat_of_zero_le h.2.1
  exact (place (⟨i, by omega⟩ : Fin width) (⟨j, by omega⟩ : Fin height)).isLt

/-- The place of the pixel at any integer coordinates, if it lies on the screen. -/
def offset? (width height : Nat) (x y : Int) : Option (Fin (width * height)) :=
  if h : (0 ≤ x ∧ x < width) ∧ (0 ≤ y ∧ y < height) then
    some ⟨(y * width + x).toNat, toNat_offset_lt h⟩
  else none

/-- All bytes zero, nothing to draw. -/
def blank (width height : Nat) : Raster width height where
  bytes := Vector.replicate (width * height) 0
  dirty := false
  binary k := .inl (Cells.get_replicate 0 k)

/-- Whether the pixel at a place is on. -/
def isOn (r : Raster width height) (k : Fin (width * height)) : Bool := Cells.get r.bytes k != 0

/-- The raster with the lowest bit of a byte flipped. -/
def flip (r : Raster width height) (k : Fin (width * height)) : Raster width height where
  bytes := Cells.set r.bytes k (Cells.get r.bytes k ^^^ 1)
  dirty := true
  binary j := by
    rw [Cells.get_set]
    split
    · rcases r.binary k with h | h <;> rw [h] <;> decide
    · exact r.binary j

/-- All pixels off; there is something to draw. -/
def clear (_ : Raster width height) : Raster width height :=
  { blank width height with dirty := true }

/-- The rows from top to bottom, each from left to right. -/
def rows (r : Raster width height) : List (List Bool) :=
  List.ofFn fun y : Fin height => List.ofFn fun x : Fin width => r.isOn (place x y)

/-- Answers a call. -/
def serve (r : Raster width height) : ScreenCall → Raster width height × ScreenReply
  | .clear => (r.clear, .done)
  | .flip x y =>
    match offset? width height x y with
    | some k => (r.flip k, .pixel (r.isOn k))
    | none => (r, .refused ⟨x, y, width, height⟩)
  | .read x y =>
    match offset? width height x y with
    | some k => (r, .pixel (r.isOn k))
    | none => (r, .refused ⟨x, y, width, height⟩)
  | .rows => (r, .rows r.rows)
  | .takeDirty => ({ r with dirty := false }, .dirty r.dirty)

/-- The raster at the end of a session. -/
def run (r : Raster width height) (calls : List ScreenCall) : Raster width height :=
  calls.foldl (fun r c => (r.serve c).1) r

/-- The screen that a raster shows. -/
def screen (r : Raster width height) : Screen width height where
  rows := Vector.ofFn fun y => Vector.ofFn fun x => r.isOn (place x y)
  dirty := r.dirty

/-! ### Places -/

/-- The offset of a host's integers is the place of the pixel that they name, and there is none
where they name no pixel. -/
theorem offset?_eq (x y : Int) : offset? width height x y =
    (Screen.point? width height x y).map fun p => place p.1 p.2 := by
  unfold offset? Screen.point?
  split
  · rename_i h
    obtain ⟨i, rfl⟩ := Int.eq_ofNat_of_zero_le h.1.1
    obtain ⟨j, rfl⟩ := Int.eq_ofNat_of_zero_le h.2.1
    rfl
  · rfl

/-- Left of the second row there is no pixel; by its offset it would be the last of the first row. -/
example : offset? 64 32 (-1) 1 = none ∧ offset? 64 32 63 0 = some 63 := by decide

/-- The row and the column of a pixel can be read off its place. -/
theorem place_div (x : Fin width) (y : Fin height) : (place x y).val / width = y := by
  rw [val_place, Nat.mul_comm, Nat.mul_add_div (Nat.zero_lt_of_lt x.isLt),
    Nat.div_eq_of_lt x.isLt, Nat.add_zero]

/-- So can its column. -/
theorem place_mod (x : Fin width) (y : Fin height) : (place x y).val % width = x := by
  rw [val_place, Nat.mul_comm, Nat.mul_add_mod, Nat.mod_eq_of_lt x.isLt]

/-- **No two pixels share a byte.** -/
theorem place_inj {x x' : Fin width} {y y' : Fin height} :
    place x y = place x' y' ↔ x = x' ∧ y = y' := by
  constructor
  · intro h
    refine ⟨Fin.ext ?_, Fin.ext ?_⟩
    · rw [← place_mod x y, h, place_mod]
    · rw [← place_div x y, h, place_div]
  · rintro ⟨rfl, rfl⟩
    rfl

/-! ### A raster looks like a screen -/

/-- A raster shows a pixel as on just if its byte is not zero. -/
@[simp] theorem get_screen (r : Raster width height) (x : Fin width) (y : Fin height) :
    r.screen.get x y = r.isOn (place x y) := by
  simp [screen, Screen.get, Cells.get]

/-- A flip of one byte puts its pixel on or off and leaves the others. -/
theorem isOn_flip (r : Raster width height) (k j : Fin (width * height)) :
    (r.flip k).isOn j = (r.isOn j).xor (decide (k = j)) := by
  rw [isOn, flip, Cells.get_set, isOn]
  by_cases hkj : k = j
  · subst hkj
    rw [if_pos rfl, decide_eq_true rfl]
    -- A byte with other bits would stay on.
    rcases r.binary k with h | h <;> rw [h] <;> decide
  · rw [if_neg hkj, decide_eq_false hkj, Bool.xor_false]

/-- A blank raster shows a blank screen. -/
theorem screen_blank : (blank width height).screen = Screen.blank width height := by
  refine Screen.ext_get (fun x y => ?_) rfl
  rw [get_screen, Screen.get_blank, isOn, blank, Cells.get_replicate]
  rfl

/-- To flip the byte at the place of a pixel is to flip the pixel on the screen. -/
theorem screen_flip (r : Raster width height) (x : Fin width) (y : Fin height) :
    (r.flip (place x y)).screen = r.screen.flip x y := by
  refine Screen.ext_get (fun x' y' => ?_) rfl
  rw [get_screen, isOn_flip, Screen.get_flip, get_screen]
  simp only [place_inj]

/-- A raster shows the rows of the screen, though it finds its pixels by an index of its own. -/
theorem rows_screen (r : Raster width height) :
    r.screen.rows.toList.map Vector.toList = r.rows := by
  simp only [screen, rows, Vector.toList_ofFn, List.map_ofFn, Function.comp_def]

/-- A raster flips the pixel that the screen would, and tells what the screen would. -/
theorem serve_flip (r : Raster width height) {x y : Int} {p : Fin width × Fin height}
    (hp : Screen.point? width height x y = some p) :
    r.serve (.flip x y) = (r.flip (place p.1 p.2), .pixel (r.screen.get p.1 p.2)) := by
  simp only [serve, offset?_eq, hp, Option.map_some, get_screen]

/-- A raster tells of a pixel what the screen would. -/
theorem serve_read (r : Raster width height) {x y : Int} {p : Fin width × Fin height}
    (hp : Screen.point? width height x y = some p) :
    r.serve (.read x y) = (r, .pixel (r.screen.get p.1 p.2)) := by
  simp only [serve, offset?_eq, hp, Option.map_some, get_screen]

/-- A raster refuses the coordinates that the screen would, and stays as it is. -/
theorem serve_of_outside (r : Raster width height) {x y : Int}
    (hp : Screen.point? width height x y = none) :
    r.serve (.flip x y) = (r, .refused ⟨x, y, width, height⟩) ∧
      r.serve (.read x y) = (r, .refused ⟨x, y, width, height⟩) := by
  constructor <;> simp only [serve, offset?_eq, hp, Option.map_none]

/-- **A raster is served like the screen that it shows.** -/
theorem serve_eq (r : Raster width height) (c : ScreenCall) :
    (r.serve c).1.screen = (r.screen.serve c).1 ∧ (r.serve c).2 = (r.screen.serve c).2 := by
  cases c with
  | clear =>
    refine ⟨?_, rfl⟩
    calc r.clear.screen = { (blank width height).screen with dirty := true } := rfl
      _ = r.screen.clear := by rw [screen_blank]; rfl
  | flip x y =>
    cases hp : Screen.point? width height x y with
    | none =>
      rw [(r.serve_of_outside hp).1, (r.screen.serve_of_outside hp).1]
      exact ⟨rfl, rfl⟩
    | some p =>
      rw [r.serve_flip hp, r.screen.serve_flip hp]
      exact ⟨r.screen_flip p.1 p.2, rfl⟩
  | read x y =>
    cases hp : Screen.point? width height x y with
    | none =>
      rw [(r.serve_of_outside hp).2, (r.screen.serve_of_outside hp).2]
      exact ⟨rfl, rfl⟩
    | some p =>
      rw [r.serve_read hp, r.screen.serve_read hp]
      exact ⟨rfl, rfl⟩
  | rows => exact ⟨rfl, congrArg ScreenReply.rows r.rows_screen.symm⟩
  | takeDirty => exact ⟨rfl, rfl⟩

/-- **After any session a raster shows what has become of its screen.** -/
theorem screen_run (r : Raster width height) (calls : List ScreenCall) :
    (r.run calls).screen = r.screen.run calls := by
  induction calls generalizing r with
  | nil => rfl
  | cons c calls ih =>
    calc ((r.serve c).1.run calls).screen = (r.serve c).1.screen.run calls := ih (r.serve c).1
      _ = (r.screen.serve c).1.run calls := by rw [(r.serve_eq c).1]

/-- **The flat frame buffer is a faithful map of bits.**  Let a host make any calls on a new screen
of any sides, and the same on a new raster.  The raster then looks like the screen, and every
further call is answered alike and leaves it looking like the screen again.

Of both: a pixel outside the sides is refused, and nothing changes.  Any other is on just if it has
been flipped an odd number of times since the last clearing; a flip tells so of before it, and the
rows, as many and as long as the sides say, show so at its place.  A flip of one pixel is not seen
at any other. -/
theorem run_faithful (width height : Nat) (calls : List ScreenCall) :
    let r := (blank width height).run calls
    let s := (Screen.blank width height).run calls
    (r.screen = s ∧ ∀ c, (r.serve c).1.screen = (s.serve c).1 ∧ (r.serve c).2 = (s.serve c).2) ∧
      (∀ x y : Int, ¬((0 ≤ x ∧ x < width) ∧ (0 ≤ y ∧ y < height)) →
        (∀ c ∈ [ScreenCall.flip x y, .read x y],
          r.serve c = (r, .refused ⟨x, y, width, height⟩) ∧
          s.serve c = (s, .refused ⟨x, y, width, height⟩))) ∧
      (∀ x y : Int, (0 ≤ x ∧ x < width) ∧ (0 ≤ y ∧ y < height) →
        s.serve (.read x y) = (s, .pixel (ScreenCall.lit calls x y)) ∧
        (s.serve (.flip x y)).2 = .pixel (ScreenCall.lit calls x y) ∧
        r.serve (.read x y) = (r, .pixel (ScreenCall.lit calls x y)) ∧
        (r.serve (.flip x y)).2 = .pixel (ScreenCall.lit calls x y)) ∧
      (∃ grid, s.serve .rows = (s, .rows grid) ∧ r.serve .rows = (r, .rows grid) ∧
        grid.length = height ∧ (∀ row ∈ grid, row.length = width) ∧
        ∀ (x : Fin width) (y : Fin height), ∃ row, grid[y.val]? = some row ∧
          row[x.val]? = some (ScreenCall.lit calls x.val y.val)) ∧
      ∀ x y x' y' : Int, (x', y') ≠ (x, y) →
        ((s.serve (.flip x y)).1.serve (.read x' y')).2 = (s.serve (.read x' y')).2 ∧
        ((r.serve (.flip x y)).1.serve (.read x' y')).2 = (r.serve (.read x' y')).2 := by
  intro r s
  have hshown : r.screen = s := by
    rw [screen_run, screen_blank]
  have hserve : ∀ c, (r.serve c).1.screen = (s.serve c).1 ∧ (r.serve c).2 = (s.serve c).2 := by
    intro c
    rw [← hshown]
    exact r.serve_eq c
  have hget : ∀ x y, s.get x y = ScreenCall.lit calls x.val y.val := Screen.get_run_blank calls
  refine ⟨⟨hshown, hserve⟩, fun x y houtside c hc => ?_, fun x y hinside => ?_, ?_,
    fun x y x' y' hne => ?_⟩
  · have hp := Screen.point?_eq_none.2 houtside
    obtain rfl | rfl : c = .flip x y ∨ c = .read x y := by simpa using hc
    · exact ⟨(r.serve_of_outside hp).1, (s.serve_of_outside hp).1⟩
    · exact ⟨(r.serve_of_outside hp).2, (s.serve_of_outside hp).2⟩
  · obtain ⟨p, hp⟩ := Option.ne_none_iff_exists'.1 (mt Screen.point?_eq_none.1 (not_not.2 hinside))
    obtain ⟨rfl, rfl⟩ := Screen.point?_eq_some.1 hp
    rw [s.serve_read hp, s.serve_flip hp, r.serve_read hp, r.serve_flip hp, hshown, hget]
    exact ⟨rfl, rfl, rfl, rfl⟩
  · obtain ⟨grid, hrows, hheight, hwidth, hpixel⟩ := s.exists_serve_rows
    refine ⟨grid, hrows, Prod.ext rfl ?_, hheight, hwidth, fun x y => ?_⟩
    · rw [(hserve .rows).2, hrows]
    · rw [← hget]
      exact hpixel x y
  · have hother := s.read_after_flip hne
    refine ⟨hother, ?_⟩
    rw [((r.serve (.flip x y)).1.serve_eq (.read x' y')).2, (hserve (.flip x y)).1, hother,
      (hserve (.read x' y')).2]

end Raster
end Chip8
