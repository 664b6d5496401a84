/-
# Key bindings

A host's keys have names, and a binding gives a key of the keypad to a name.
Names differ only up to letter case: they are kept in upper case, and a later
binding of a name replaces an earlier one.
-/

import Chip8.Text.Case

namespace Chip8

/-- Bindings of names to key codes, no name twice, in the order in which the names came. -/
structure KeyMap where
  bindings : List (Text × Int)
  deriving DecidableEq, Repr

namespace KeyMap

/-- No bindings. -/
def empty : KeyMap := ⟨[]⟩

/-- The code bound to a name, spelled exactly. -/
def find? (m : KeyMap) (name : Text) : Option Int :=
  (m.bindings.find? (·.1 = name)).map (·.2)

/-- Bindings with the code of a name replaced, or added at the end. -/
def putIn (name : Text) (code : Int) : List (Text × Int) → List (Text × Int)
  | [] => [(name, code)]
  | (other, old) :: rest =>
    if other = name then (name, code) :: rest else (other, old) :: putIn name code rest

/-- Binds a name, spelled exactly. -/
def put (m : KeyMap) (name : Text) (code : Int) : KeyMap := ⟨putIn name code m.bindings⟩

/-- Binds a name in any case. -/
def bind (m : KeyMap) (name : Text) (code : Int) : KeyMap := m.put (Text.upper name) code

/-- The map of several bindings, the last of equal names counting. -/
def ofBindings (bindings : List (Text × Int)) : KeyMap :=
  bindings.foldl (fun m (name, code) => m.bind name code) empty

/-- What is put in for a name is found under this name, and nothing else changes. -/
theorem find?_putIn (name other : Text) (code : Int) (bindings : List (Text × Int)) :
    ((putIn name code bindings).find? (·.1 = other)).map (·.2) =
      if name = other then some code else (bindings.find? (·.1 = other)).map (·.2) := by
  induction bindings with
  | nil => by_cases h : name = other <;> simp [putIn, h]
  | cons b rest ih =>
    obtain ⟨key, old⟩ := b
    by_cases hk : key = name
    · subst hk
      by_cases h : key = other <;> simp [putIn, h]
    · by_cases h : key = other
      · subst h
        have hn : name ≠ key := fun e => hk e.symm
        simp [putIn, hk, hn]
      · simp [putIn, hk, h, ih]

/-- A name that is bound is found with its code, and the bindings of other names stay. -/
@[simp] theorem find?_put (m : KeyMap) (name other : Text) (code : Int) :
    (m.put name code).find? other = if name = other then some code else m.find? other :=
  find?_putIn name other code m.bindings

/-- The bindings of a machine that has none of its own: the left half of a keyboard's four
letter rows stands for the rows `1 2 3 C`, `4 5 6 D`, `7 8 9 E`, `A 0 B F` of the keypad. -/
def standard : KeyMap :=
  ⟨[("1", 0x1), ("2", 0x2), ("3", 0x3), ("4", 0xC),
    ("Q", 0x4), ("W", 0x5), ("E", 0x6), ("R", 0xD),
    ("A", 0x7), ("S", 0x8), ("D", 0x9), ("F", 0xE),
    ("Z", 0xA), ("X", 0x0), ("C", 0xB), ("V", 0xF)]⟩

/-- The name of a host's key, if its code is a printable ASCII character; other names only the
host's window system knows. -/
def keyName? (code : Int) : Option Text :=
  if 0x20 < code ∧ code < 0x7F then some (Text.upper (.ofChars [Char.ofNat code.toNat]))
  else none

/-- The code bound to a host's key, if the key has a name here. -/
def boundCode? (m : KeyMap) (code : Int) : Option (Option Int) := (keyName? code).map m.find?

end KeyMap
end Chip8
