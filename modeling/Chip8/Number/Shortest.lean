/-
# The shortest decimal of a floating-point number

Many decimals read back as the same floating-point number: all those in an
interval around it.  `Shortest.digits` gives the one with the fewest significant
digits, and of those the one nearest to the number.

On the grid of decimals with `n` significant digits the number lies between two
neighbours.  If any point of the grid falls into the interval, one of these two
does, so it is enough to try them for `n = 1, 2, …`; seventeen digits always
suffice.  All arithmetic is exact.

A document's values show a floating-point number as this decimal, positional while
the leading digit stands between `10^-4` and `10^15`, with an exponent of at least two
digits outside that range, and always with a point or an exponent, so that it does
not look like an integer.
-/

import Chip8.Number.Binary64

namespace Chip8
namespace Shortest

/-- A positive fraction with its two bounds: the decimals strictly between the bounds read back
as the number, and the bounds themselves do if `closed` holds.  All three are over `den`. -/
structure Interval where
  low : Nat
  value : Nat
  high : Nat
  den : Nat
  closed : Bool
  deriving DecidableEq, Repr

/-- The decimals that read back as `m · 2^q`.  The gap below a power of two is half the gap
above it. -/
def interval (m : Nat) (q : Int) : Interval :=
  let below := if m = 0x10000000000000 ∧ -1074 < q then 1 else 2
  let up := Nat.pow 2 q.toNat
  let down := 4 * Nat.pow 2 (-q).toNat
  ⟨(4 * m - below) * up, 4 * m * up, (4 * m + 2) * up, down, m % 2 == 0⟩

/-- The powers of ten in `10^k`, as a factor above and a factor below the fraction line. -/
def tens (k : Int) : Nat × Nat := (Nat.pow 10 k.toNat, Nat.pow 10 (-k).toNat)

/-- Whether `c · 10^k` lies in the interval. -/
def Interval.holds (i : Interval) (c : Nat) (k : Int) : Bool :=
  let (up, down) := tens k
  let point := c * up * i.den
  if i.closed then decide (i.low * down ≤ point) && decide (point ≤ i.high * down)
  else decide (i.low * down < point) && decide (point < i.high * down)

/-- The number in units of `10^k`: the whole units, what is left, and what makes a unit. -/
def Interval.units (i : Interval) (k : Int) : Nat × Nat × Nat :=
  let (up, down) := tens k
  let unit := up * i.den
  (i.value * down / unit, i.value * down % unit, unit)

/-- The nearest of the two neighbours on the grid of `10^k` that lie in the interval; of two
equally near ones the even one. -/
def Interval.nearest? (i : Interval) (k : Int) : Option Nat :=
  let (c, rest, unit) := i.units k
  match i.holds c k, i.holds (c + 1) k with
  | false, false => none
  | true, false => some c
  | false, true => some (c + 1)
  | true, true =>
    if 2 * rest < unit ∨ (2 * rest = unit ∧ c % 2 = 0) then some c else some (c + 1)

/-- The exponent of the leading decimal digit, looked for from an estimate that is at most one
too small. -/
def Interval.leading (i : Interval) (estimate : Int) : Int :=
  let (up, down) := tens (estimate + 1)
  if up * i.den ≤ i.value * down then estimate + 1 else estimate

/-- An exponent of ten that is at most one below that of the leading digit of `m · 2^q`, by
`0.30102 < log₁₀ 2 < 0.30103`. -/
def estimate (m : Nat) (q : Int) : Int :=
  let e := (Nat.log2 m : Int) + q
  if 0 ≤ e then e * 30102 / 100000 else e * 30103 / 100000

/-- Takes zeros off the end of a number. -/
def trimZeros : Nat → Nat → Int → Nat × Int
  | 0, c, k => (c, k)
  | fuel + 1, c, k => if c % 10 = 0 ∧ c ≠ 0 then trimZeros fuel (c / 10) (k + 1) else (c, k)

/-- Tries `n, n + 1, …` significant digits, `tries` times. -/
def search (i : Interval) (leading : Int) : Nat → Nat → Nat × Int
  | 0, _ => (0, 0)
  | tries + 1, n =>
    let k := leading + 1 - n
    match i.nearest? k with
    | some c => trimZeros 18 c k
    | none => search i leading tries (n + 1)

/-- The shortest decimal `c · 10^k` of the positive number `m · 2^q`; `c` does not end in a
zero. -/
def digits (m : Nat) (q : Int) : Nat × Int :=
  let i := interval m q
  search i (i.leading (estimate m q)) 17 1

end Shortest

/-! ### Floating-point numbers in text -/

namespace Number

/-- An exponent with its sign and at least two digits. -/
def exponentText (e : Int) : String :=
  let ds := toString e.natAbs
  (if e < 0 then "-" else "+") ++ (if ds.length < 2 then "0" ++ ds else ds)

/-- `c · 10^k` with a point, where `ds` are the digits of `c`. -/
def positional (ds : List Char) (k : Int) : List Char :=
  if 0 ≤ k then ds ++ List.replicate k.toNat '0' ++ ['.', '0']
  else
    let places := (-k).toNat
    if ds.length ≤ places then
      ['0', '.'] ++ List.replicate (places - ds.length) '0' ++ ds
    else ds.take (ds.length - places) ++ '.' :: ds.drop (ds.length - places)

/-- The digits with a point after the first, without one if there is only one. -/
def scientific (ds : List Char) : List Char :=
  match ds with
  | d :: e :: rest => d :: '.' :: e :: rest
  | _ => ds

/-- The text of the positive number `c · 10^k`. -/
def decimalText (c : Nat) (k : Int) : String :=
  let ds := Nat.toDigits 10 c
  let leading := k + ds.length - 1
  if -4 ≤ leading ∧ leading < 16 then String.ofList (positional ds k)
  else String.ofList (scientific ds) ++ "e" ++ exponentText leading

/-- The text of a floating-point number. -/
def floatText (x : Float) : String :=
  match Binary64.ofFloat x with
  | .nan => "nan"
  | .infinite negative => if negative then "-inf" else "inf"
  | .finite negative m q =>
    let sign := if negative then "-" else ""
    if m = 0 then sign ++ "0.0"
    else
      let (c, k) := Shortest.digits m q
      sign ++ decimalText c k

end Number
end Chip8
