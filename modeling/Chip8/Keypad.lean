/-
# The keypad

Sixteen keys, `0` to `F`, each of them up or down.  The host presses and
releases them; a program asks for one key, or for the lowest key that is down.

A program sees a key as a byte, `0xFF` when it is down and `0x00` when it is up.
How far the search for a pressed key goes depends on the machine: the reference
machine looks at the keys `0` to `E` only and never finds `F`, the full one
looks at all sixteen.
-/

import Chip8.Cells

namespace Chip8

/-- Which keys are down. -/
structure Keypad where
  down : Vector Bool 16
  deriving DecidableEq, Repr

/-- Why the keypad refuses an access. -/
inductive KeypadError where
  /-- There is no such key. -/
  | noSuchKey (code : Int)
  /-- A search cannot cover that many keys. -/
  | badLimit (limit : Int)
  deriving DecidableEq, Repr

/-- The wording of a refusal. -/
def KeypadError.message : KeypadError → String
  | .noSuchKey code => s!"Key code {code} is not in range 0x0-0xF."
  | .badLimit limit => s!"Scan limit {limit} is not in range 0-16."

/-- How many keys the search for a pressed key covers. -/
inductive KeyScan where
  /-- The keys `0` to `E`. -/
  | reference
  /-- All keys. -/
  | full
  deriving DecidableEq, Repr

namespace KeyScan

/-- The number of keys covered, counted from key `0`. -/
def limit : KeyScan → Nat
  | .reference => 15
  | .full => 16

/-- No mode looks at more keys than there are. -/
theorem limit_le (k : KeyScan) : k.limit ≤ 16 := by cases k <;> decide

/-- The name used in configurations. -/
def name : KeyScan → String
  | .reference => "reference"
  | .full => "full"

/-- The mode of a name; names are compared exactly. -/
def ofName? (s : String) : Option KeyScan :=
  if s = "reference" then some .reference else if s = "full" then some .full else none

/-- A mode is found by its name. -/
@[simp] theorem ofName?_name (k : KeyScan) : ofName? k.name = some k := by
  cases k <;> decide

end KeyScan

namespace Keypad

/-- All keys up. -/
def released : Keypad := ⟨Vector.replicate 16 false⟩

/-- Whether a key is down. -/
def isDown (k : Keypad) (key : Nibble) : Bool := Cells.get k.down key

/-- The keypad with one key put down or up. -/
def put (k : Keypad) (key : Nibble) (down : Bool) : Keypad := ⟨Cells.set k.down key down⟩

/-- On a keypad that nobody touches no key is down. -/
@[simp] theorem isDown_released (key : Nibble) : released.isDown key = false := by
  simp [isDown, released]

/-- A key that is moved is where it was moved to, and the others stay. -/
theorem isDown_put (k : Keypad) (key other : Nibble) (down : Bool) :
    (k.put key down).isDown other = if key = other then down else k.isDown other :=
  Cells.get_set k.down key other down

/-- The byte by which a program sees a key. -/
def byte (k : Keypad) (key : Nibble) : UInt8 := if k.isDown key then 0xFF else 0x00

/-- All sixteen bytes. -/
def bytes (k : Keypad) : List UInt8 := (List.finRange 16).map k.byte

/-- There is a byte to each key. -/
theorem length_bytes (k : Keypad) : k.bytes.length = 16 := by simp [bytes]

/-- A byte says that its key is up, or that it is down, and nothing in between. -/
theorem mem_bytes (k : Keypad) : ∀ b ∈ k.bytes, b = 0x00 ∨ b = 0xFF := by
  intro b hb
  obtain ⟨key, -, rfl⟩ := List.mem_map.1 hb
  unfold byte
  split
  · exact .inr rfl
  · exact .inl rfl

/-- The first `limit` keys in ascending order. -/
def keysBelow (limit : Nat) : List Nibble := (List.finRange 16).filter (·.val < limit)

/-- The lowest key below `limit` that is down. -/
def firstDown (k : Keypad) (limit : Nat) : Option Nibble := (keysBelow limit).find? k.isDown

/-- No key is found just if all those that are looked at are up. -/
theorem firstDown_eq_none_iff (k : Keypad) (limit : Nat) :
    k.firstDown limit = none ↔ ∀ key : Nibble, key.val < limit → k.isDown key = false := by
  simp [firstDown, keysBelow]

/-- The key of a code, or the refusal. -/
def key (code : Int) : Except KeypadError Nibble :=
  match Nibble.ofInt? code with
  | some key => .ok key
  | none => .error (.noSuchKey code)

/-- Puts the key of a code down. -/
def press (k : Keypad) (code : Int) : Except KeypadError Keypad :=
  return k.put (← key code) true

/-- Lets the key of a code up. -/
def release (k : Keypad) (code : Int) : Except KeypadError Keypad :=
  return k.put (← key code) false

/-- The byte of the key of a code. -/
def read (k : Keypad) (code : Int) : Except KeypadError UInt8 :=
  return k.byte (← key code)

/-- The lowest pressed key below a limit, which must be one of `0 … 16`. -/
def first (k : Keypad) (limit : Int) : Except KeypadError (Option Nibble) :=
  if 0 ≤ limit ∧ limit ≤ 16 then .ok (k.firstDown limit.toNat) else .error (.badLimit limit)

end Keypad
end Chip8
