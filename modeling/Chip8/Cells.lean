/-
# Rows of cells

Memory, registers, stack, keys and pixels are rows of a fixed number of cells.  A
cell is named by an index that is known to be in range, so that reading and
replacing it are total.

Registers, keys and stack slots come in rows of sixteen: the number of a cell is
four bits.

A host may ask for rows of any length and for cells of any number.  A number that
does not fit into 64 bits cannot be that of a cell, whatever the row.
-/

namespace Chip8
namespace Cells

variable {α : Type} {n : Nat}

/-- The content of a cell. -/
def get (cells : Vector α n) (i : Fin n) : α := cells[i]

/-- The row with the content of a cell replaced. -/
def set (cells : Vector α n) (i : Fin n) (a : α) : Vector α n := cells.set i a

/-- In a row of equal cells each cell is that one. -/
@[simp] theorem get_replicate (a : α) (i : Fin n) : get (Vector.replicate n a) i = a := by
  simp [get]

/-- A cell that is replaced holds the replacement. -/
@[simp] theorem get_set_self (cells : Vector α n) (i : Fin n) (a : α) :
    get (set cells i a) i = a := by
  simp [get, set]

/-- To replace a cell leaves the others. -/
theorem get_set (cells : Vector α n) (i j : Fin n) (a : α) :
    get (set cells i a) j = if i = j then a else get cells j := by
  by_cases h : i = j
  · subst h; simp
  · simp [get, set, h, Fin.val_ne_of_ne h]

/-- Two rows with the same contents are equal. -/
theorem ext_get {cells others : Vector α n} (h : ∀ i, get cells i = get others i) :
    cells = others :=
  Vector.ext fun i hi => h ⟨i, hi⟩

/-- Whether an integer can be the number of a cell, counted from the start of a row or from its
end. -/
def isIndex (k : Int) : Bool := -0x8000000000000000 ≤ k && k < 0x8000000000000000

/-- What is said of an integer that cannot be the number of a cell. -/
def notIndex : String := "cannot fit 'int' into an index-sized integer"

/-- The number of cells that there is no room for any more. -/
def noRoom : Nat := 0x400000000

end Cells

/-- Why a row of the length that a host asks for is not made. -/
inductive SizeError where
  | notPositive
  | noRoom
  /-- The cells could not be numbered. -/
  | notIndex
  deriving DecidableEq, Repr

/-- The wording of the refusal, given that of a length that is not positive; if there is no room,
nothing is said. -/
def SizeError.message (notPositive : String) : SizeError → String
  | .notPositive => notPositive
  | .noRoom => ""
  | .notIndex => Cells.notIndex

/-- Refuses a length for which no row is made. -/
def Cells.checkSize (n : Nat) : Except SizeError Unit :=
  if !Cells.isIndex n then .error .notIndex
  else if Cells.noRoom ≤ n then .error .noRoom
  else .ok ()

/-- A number of four bits: that of a register, a key or a stack slot. -/
abbrev Nibble := Fin 16

namespace Nibble

/-- The lowest four bits of an integer, two's complement if it is negative. -/
def low (k : Int) : Nibble := ⟨(k % 16).toNat, by omega⟩

/-- The low four bits of an integer are its remainder, also for a negative one. -/
@[simp] theorem val_low (k : Int) : ((low k : Nat) : Int) = k % 16 := by
  simp only [low]; omega

/-- The integer as a number of four bits, if it is one. -/
def ofInt? (k : Int) : Option Nibble :=
  if h : 0 ≤ k ∧ k < 16 then some ⟨k.toNat, by omega⟩ else none

/-- The integers that are four-bit numbers are those that count one. -/
theorem ofInt?_eq_some {k : Int} {x : Nibble} : ofInt? k = some x ↔ k = (x : Nat) := by
  unfold ofInt?
  split
  · simp [Fin.ext_iff]; omega
  · simp; omega

/-- Of an integer that has only four bits the low four bits are all. -/
theorem ofInt?_eq_low {k : Int} (h₀ : 0 ≤ k) (h : k < 16) : ofInt? k = some (low k) := by
  rw [ofInt?_eq_some, val_low]; omega

end Nibble
end Chip8
