/-
# Keys of mappings

Two keys are the same if they are equal as values: an integer, a floating-point
number and a truth value if they are the same number, two moments if they are the
same instant or if neither has an offset and both show the same time.  "Not a
number" is the same as nothing but itself: as a key of the same origin.

Of entries with the same key the first one gives the key and the last one the
value.

Every value has a code, which tells most values that are not equal apart.
-/

import Chip8.Value.Order

namespace Chip8
namespace Value

/-- Whether a floating-point number is an integer. -/
def isInteger (x : Float) (n : Int) : Bool :=
  match Binary64.ofFloat x with
  | .finite negative m q =>
    let signed : Int := if negative then -m else m
    if 0 ≤ q then signed * (Nat.pow 2 q.toNat : Nat) = n
    else signed = n * (Nat.pow 2 (-q).toNat : Nat)
  | _ => false

/-- Whether two numbers are the same. -/
def sameNumber : Number → Number → Bool
  | .int m, .int n => m = n
  | .float x, .float y => x == y
  | .float x, .int n | .int n, .float x => isInteger x n

/-- Whether two values are equal. -/
def same : Value → Value → Bool
  | .null, .null => true
  | .str s, .str t => s == t
  | .bytes s, .bytes t => s == t
  | .date d, .date e => d == e
  | .moment m, .moment n => m.offset.isSome == n.offset.isSome && m.number == n.number
  | a, b =>
    match a.number?, b.number? with
    | some m, some n => sameNumber m n
    | _, _ => false

/-- Whether a value is "not a number". -/
def isNaN : Value → Bool
  | .float x => x.isNaN
  | _ => false

/-- A number that equal values share. -/
def keyCode : Value → UInt64
  | .str s => s.glyphs.foldl (fun code g => code * 31 + g.code.toUInt64) 1
  | v => ((v.number?.bind numberCode?).getD 0).toUInt64

end Value

/-- A value that may become a key, with its code and the number of its origin. -/
structure Key where
  value : Value
  origin : Nat
  code : UInt64 := value.keyCode
  deriving Repr, Inhabited

namespace Key

/-- Whether two keys are the same. -/
def same (a b : Key) : Bool :=
  a.code == b.code && (a.value.same b.value ||
    (a.value.isNaN && b.value.isNaN && a.origin == b.origin))

/-- Puts a value at a key, in place of the one that is there. -/
def put (key : Key) (value : Value) (entries : Array (Key × Value)) : Array (Key × Value) :=
  match entries.findIdx? fun e => e.1.same key with
  | some k => entries.modify k fun e => (e.1, value)
  | none => entries.push (key, value)

end Key
end Chip8
