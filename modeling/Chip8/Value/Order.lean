/-
# The order of a set

A set of numbers and moments is shown in an order of its own.  Each value has a code
of 64 bits: a number has itself, reduced modulo the prime `2^61 - 1`, a moment whose
offset is known has a mixture of its days, seconds and microseconds, and what is
empty has zero.  The codes are put one after the other into a table that is more than
half empty: each in the slot that its low bits name, or else in the next free one of
its search.  The order is that of the slots.

With a value of another kind among them, the values keep the order in which they came.
-/

import Chip8.Value

namespace Chip8
namespace Value

/-- The prime by which codes are reduced. -/
def codePrime : Nat := 0x1FFFFFFFFFFFFFFF

/-- The 64 bits of a code with its sign; minus one is not among the codes. -/
def codeBits (negative : Bool) (n : Nat) : Nat :=
  let signed : Int := if negative then -n else n
  ((if signed = -1 then -2 else signed) % 0x10000000000000000).toNat

/-- The code of a number; integers have the same in both forms. -/
def numberCode? : Number → Option Nat
  | .int n => some (codeBits (n < 0) (n.natAbs % codePrime))
  | .float x =>
    match Binary64.ofFloat x with
    | .nan => none
    | .infinite negative => some (codeBits negative 314159)
    | .finite negative m q =>
      -- modulo the prime, `2^61` is one
      some (codeBits negative (m * Nat.pow 2 (q % 61).toNat % codePrime))

/-- What a mixture starts from. -/
def mixtureStart : UInt64 := 2870177450012600261

/-- A mixture of numbers: each is stretched and added, and the sum is turned by 31 bits and
stretched again. -/
def mixedCode (ns : List Nat) : Nat :=
  let mixed := ns.foldl (fun (mixed : UInt64) n =>
    let sum := mixed + n.toUInt64 * 14029467366897019727
    ((sum <<< 31) ||| (sum >>> 33)) * 11400714785074694791) mixtureStart
  let code := mixed + (ns.length.toUInt64 ^^^ mixtureStart ^^^ 3527539)
  if code = 0xFFFFFFFFFFFFFFFF then 1546275796 else code.toNat

/-- The code of an instant, from its microseconds since the start of the year 1; the first day of
that year has the number one. -/
def instantCode (microseconds : Int) : Nat :=
  let n := (microseconds + 86400000000).toNat
  mixedCode [n / 86400000000, n / 1000000 % 86400, n % 1000000]

/-- The code of a value, if it has one. -/
def code? (v : Value) : Option Nat :=
  match v with
  | .moment m => if m.offset.isSome then some (instantCode m.number) else none
  | .str s => if s.isEmpty then some 0 else none
  | .bytes bs => if bs.isEmpty then some 0 else none
  | v => v.number?.bind numberCode?

/-- The slots of a table for so many items. -/
def tableSize (count : Nat) : Nat := if count < 5 then 8 else Nat.nextPowerOfTwo (2 * count + 1)

/-- The slots that are looked at together: ten in a row, or one if the table ends before. -/
def slotRun (size i : Nat) : List Nat := if i + 9 < size then List.range' i 10 else [i]

/-- The first free slot from `i` on, where `rest` are the bits of the code that are not used
yet. -/
def freeSlot (size : Nat) (taken : Nat → Bool) : Nat → Nat → Nat → Nat
  | 0, i, _ => i
  | fuel + 1, i, rest =>
    match (slotRun size i).find? fun k => !taken k with
    | some k => k
    | none =>
      let rest := rest / 32
      freeSlot size taken fuel ((i * 5 + 1 + rest) % size) rest

/-- The slots of codes. -/
def slots (size : Nat) (codes : List Nat) : List Nat :=
  (codes.foldl (fun taken code =>
    freeSlot size taken.contains (size + 14) (code % size) code :: taken) []).reverse

/-- The items of a set in its order. -/
def ordered (items : List Value) : List Value :=
  match items.mapM code? with
  | none => items
  | some codes =>
    let placed := (slots (tableSize items.length) codes).zip items
    (placed.mergeSort fun a b => decide (a.1 ≤ b.1)).map (·.2)

end Value
end Chip8
