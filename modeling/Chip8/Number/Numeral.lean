/-
# Reading numbers

The numerals of documents.  Blanks around a numeral are ignored, the decimal
digits of all scripts are as good as the ASCII ones, and a single underscore may
stand between two digits.

An integer is a sign and digits, after the mark of their base if they have one.
A decimal integer of more than 4300 digits is refused.

A floating-point number is a sign and either digits with an optional point and an
optional exponent, or one of the words `inf`, `infinity` and `nan` in any case.
It is rounded to the nearest floating-point number; too large a number becomes
infinite and too small a one becomes zero.
-/

import Chip8.Text.Classes
import Chip8.Text.Quoted

namespace Chip8

/-- Why a text is no integer. -/
inductive NumeralError where
  | invalid (base : Nat) (text : Text)
  /-- It has too many digits. -/
  | tooLong (digits : Nat)
  deriving DecidableEq, Repr

/-- The wording of the refusal.  Of a long text only the beginning is shown. -/
def NumeralError.message : NumeralError → String
  | .invalid base text =>
    s!"invalid literal for int() with base {base}: " ++
      String.ofList ((Text.quoted text).toList.take 200)
  | .tooLong digits =>
    "Exceeds the limit (4300 digits) for integer string conversion: " ++
      s!"value has {digits} digits; use sys.set_int_max_str_digits() to increase the limit"

namespace Numeral

/-- A digit of any script as an ASCII digit; other characters stay. -/
def plainDigit (c : Char) : Char :=
  match Text.digit? c with
  | some d => Char.ofNat (48 + d)
  | none => c

/-- A numeral without the blanks around it and with ASCII digits. -/
def plain (t : Text) : List Char := (Text.trimBlanks t.chars).map plainDigit

/-- The value of an ASCII digit or letter as a digit of a base. -/
def digitOf? (base : Nat) (c : Char) : Option Nat :=
  let value :=
    if '0' ≤ c ∧ c ≤ '9' then some (c.toNat - 48)
    else if 'a' ≤ c ∧ c ≤ 'z' then some (c.toNat - 87)
    else if 'A' ≤ c ∧ c ≤ 'Z' then some (c.toNat - 55)
    else none
  value.filter (· < base)

/-- Whether a character is an ASCII digit. -/
def isDigit (c : Char) : Bool := (digitOf? 10 c).isSome

/-- The number that digits stand for; characters that are no digits are passed over. -/
def ofDigits (base : Nat) (cs : List Char) : Nat :=
  (cs.filterMap (digitOf? base)).foldl (fun n d => n * base + d) 0

/-- Splits a sign off. -/
def splitSign : List Char → Bool × List Char
  | '-' :: rest => (true, rest)
  | '+' :: rest => (false, rest)
  | cs => (false, cs)

/-- A number with a sign. -/
def signed (negative : Bool) (n : Nat) : Int := if negative then -n else n

/-- Whether every underscore stands between two digits. -/
def underscoresBetween (isDigit : Char → Bool) (previous : Bool) : List Char → Bool
  | [] => true
  | '_' :: rest =>
    previous && (match rest with | [] => false | c :: _ => isDigit c) &&
      underscoresBetween isDigit false rest
  | c :: rest => underscoresBetween isDigit (isDigit c) rest

/-- The characters without underscores. -/
def dropUnderscores (cs : List Char) : List Char := cs.filter (· ≠ '_')

/-- Reads the digits of an integer after sign and mark. -/
def readDigits (base : Nat) (text : Text) (cs : List Char) : Except NumeralError Nat :=
  let isDigit := fun c => (digitOf? base c).isSome
  let run := cs.takeWhile fun c => isDigit c || c == '_'
  let rest := cs.dropWhile fun c => isDigit c || c == '_'
  let digits := dropUnderscores run
  if digits.isEmpty || !underscoresBetween isDigit false run then .error (.invalid base text)
  else if base = 10 ∧ 4300 < digits.length then .error (.tooLong digits.length)
  else if !rest.isEmpty then .error (.invalid base text)
  else .ok (ofDigits base digits)

/-- The digits after the mark of their base, which is `0b`, `0o` or `0x` in any case and may be
left out.  One more underscore may stand after it. -/
def dropMark (base : Nat) (cs : List Char) : List Char :=
  let marks : Char → Bool := fun c =>
    let c := c.toLower
    (base == 2 && c == 'b') || (base == 8 && c == 'o') || (base == 16 && c == 'x')
  match cs with
  | '0' :: c :: rest =>
    if marks c then (match rest with | '_' :: rest => rest | _ => rest) else cs
  | _ => cs

/-- Reads an integer of a base. -/
def inBase (base : Nat) (text : Text) : Except NumeralError Int :=
  let (negative, cs) := splitSign (plain text)
  return signed negative (← readDigits base text (dropMark base cs))

/-- Whether a text announces base 16. -/
def marksHex (text : Text) : Bool :=
  match text.chars with
  | '0' :: x :: _ => x == 'x' || x == 'X'
  | _ => false

/-- Reads an integer in the base that it announces, which is 16 or 10. -/
def integer (text : Text) : Except NumeralError Int :=
  inBase (if marksHex text then 16 else 10) text

/-- The floating-point number `c · 10^e`. -/
def scaled (c : Nat) (e : Int) : Float := Float.ofScientific c (decide (e < 0)) e.natAbs

/-- Reads the exponent of a numeral, which is zero if there is none. -/
def exponent? : List Char → Option Int
  | [] => some 0
  | e :: rest =>
    if e = 'e' ∨ e = 'E' then
      let (negative, cs) := splitSign rest
      if cs.isEmpty || !cs.all isDigit then none else some (signed negative (ofDigits 10 cs))
    else none

/-- Reads a floating-point numeral without sign and underscores. -/
def unsigned? (cs : List Char) : Option Float :=
  let word := String.ofList (cs.map Char.toLower)
  if word = "inf" ∨ word = "infinity" then some (1 / 0)
  else if word = "nan" then some (0 / 0)
  else
    let whole := cs.takeWhile isDigit
    let (fraction, rest) := match cs.dropWhile isDigit with
      | '.' :: rest => (rest.takeWhile isDigit, rest.dropWhile isDigit)
      | rest => ([], rest)
    if whole.isEmpty && fraction.isEmpty then none
    else
      (exponent? rest).map fun e =>
        scaled (ofDigits 10 (whole ++ fraction)) (e - fraction.length)

/-- Reads a floating-point number. -/
def float? (text : Text) : Option Float :=
  let cs := plain text
  if underscoresBetween isDigit false cs then
    let (negative, cs) := splitSign (dropUnderscores cs)
    (unsigned? cs).map fun x => if negative then -x else x
  else none

end Numeral
end Chip8
