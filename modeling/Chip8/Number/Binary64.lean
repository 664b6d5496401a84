/-
# Binary floating point, taken apart

A 64-bit floating-point number is not a number, infinite, or a sign and `m · 2^q`
with a natural number `m` below `2^53`.  Rounding to an integer and writing a
number in decimal are done on these parts, in exact arithmetic.
-/

namespace Chip8

/-- The value of a floating-point number. -/
inductive Binary64 where
  | nan
  | infinite (negative : Bool)
  /-- The number `m · 2^q`, with its sign. -/
  | finite (negative : Bool) (m : Nat) (q : Int)
  deriving DecidableEq, Repr

namespace Binary64

/-- The value that 64 bits stand for: a sign bit, eleven bits of exponent, 52 bits of
fraction. -/
def ofBits (bits : Nat) : Binary64 :=
  let negative := bits / 0x8000000000000000 % 2 == 1
  let exponent : Nat := bits / 0x10000000000000 % 0x800
  let fraction : Nat := bits % 0x10000000000000
  if exponent = 2047 then (if fraction = 0 then .infinite negative else .nan)
  else if exponent = 0 then .finite negative fraction (-1074)
  else .finite negative (0x10000000000000 + fraction) ((exponent : Int) - 1075)

/-- The value of a floating-point number. -/
def ofFloat (x : Float) : Binary64 := ofBits x.toBits.toNat

/-- The greatest integer that is not above `m · 2^q`, of the given sign. -/
def floorOf (negative : Bool) (m : Nat) (q : Int) : Int :=
  let signed : Int := if negative then -m else m
  if 0 ≤ q then signed * (Nat.pow 2 q.toNat : Nat) else signed / (Nat.pow 2 (-q).toNat : Nat)

end Binary64

/-- Why a number cannot be rounded to an integer. -/
inductive FloorError where
  | nan
  | infinite
  deriving DecidableEq, Repr

/-- The wording of the refusal. -/
def FloorError.message : FloorError → String
  | .nan => "cannot convert float NaN to integer"
  | .infinite => "cannot convert float infinity to integer"

/-- The greatest integer that is not above a floating-point number. -/
def Binary64.floor : Binary64 → Except FloorError Int
  | .nan => .error .nan
  | .infinite _ => .error .infinite
  | .finite negative m q => .ok (floorOf negative m q)

/-- A number as documents and hosts give it: an integer of any size, or floating point. -/
inductive Number where
  | int (n : Int)
  | float (x : Float)
  deriving Repr

namespace Number

/-- The nearest floating-point number of an integer, if it is not too large to have one. -/
def nearest? (n : Int) : Option Float :=
  let x := Float.ofInt n
  if x.isFinite then some x else none

/-- What is said of an integer without a nearest floating-point number. -/
def tooLarge : String := "int too large to convert to float"

/-- The number as floating point, if it is not too large. -/
def toFloat? : Number → Option Float
  | .int n => nearest? n
  | .float x => some x

/-- Whether the number is known to be at most zero; of "not a number" it is not. -/
def notPositive : Number → Bool
  | .int n => n ≤ 0
  | .float x => x ≤ 0

/-- Whether the number is known to be below zero. -/
def negative : Number → Bool
  | .int n => n < 0
  | .float x => x < 0

end Number
end Chip8
