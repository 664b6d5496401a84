/-
# Tags

The tag of a node is its type.  A plain scalar without a tag has the type that its
form shows: a truth value, a number, null, a date, or one of the two signs that
are special as keys; everything else is a text.
-/

import Chip8.Number.Numeral
import Chip8.Yaml.Timestamp

namespace Chip8
namespace Yaml

/-- The type of a node. -/
inductive Tag where
  | null | bool | int | float | binary | timestamp | omap | pairs | set | str | seq | map
  /-- The key whose value is mixed into a mapping. -/
  | merge
  /-- The key whose value stands for a whole mapping. -/
  | value
  | unknown
  deriving DecidableEq, Repr

namespace Tag

/-- What the names of the known tags begin with. -/
def lead : String := "tag:yaml.org,2002:"

/-- The known tags, with the ends of their names. -/
def known : List (String × Tag) :=
  [("null", null), ("bool", bool), ("int", int), ("float", float), ("binary", binary),
    ("timestamp", timestamp), ("omap", omap), ("pairs", pairs), ("set", set), ("str", str),
    ("seq", seq), ("map", map), ("merge", merge), ("value", value)]

/-- The tag of a name. -/
def ofName (name : String) : Tag :=
  ((known.find? fun e => lead ++ e.1 == name).map (·.2)).getD unknown

/-- Whether the tag is of a collection. -/
def isCollection : Tag → Bool
  | omap | pairs | set | seq | map => true
  | _ => false

/-- Whether the tag is of a scalar that has a value. -/
def isScalar : Tag → Bool
  | null | bool | int | float | binary | timestamp | str => true
  | _ => false

/-! ### The forms of plain scalars -/

/-- The words for true and false. -/
def truthWords : List (String × Bool) :=
  [("yes", true), ("no", false), ("true", true), ("false", false), ("on", true), ("off", false)]

/-- The three ways in which a word is written: in lower case, capitalised and in upper case. -/
def spellings (word : String) : List String := [word, word.capitalize, word.toUpper]

/-- Whether a text is one of some words in one of their spellings. -/
def isWord (words : List String) (s : String) : Bool := words.any fun w => (spellings w).contains s

/-- Whether there is a character and all have a property. -/
def allSome (p : Char → Bool) (cs : List Char) : Bool := !cs.isEmpty && cs.all p

/-- Whether a character is a digit of a base or an underscore. -/
def isDigitOf (base : Nat) (c : Char) : Bool := (Numeral.digitOf? base c).isSome || c == '_'

/-- Whether characters start with a digit and go on with digits and underscores. -/
def isRun : List Char → Bool
  | [] => false
  | c :: rest => Numeral.isDigit c && rest.all (isDigitOf 10)

/-- Whether characters are a digit pair of base 60, of which the first may be missing. -/
def isSixtieth : List Char → Bool
  | [c] => Numeral.isDigit c
  | [b, c] => (Numeral.digitOf? 6 b).isSome && Numeral.isDigit c
  | _ => false

/-- Splits a row at a sign. -/
def splitAt {α : Type} [DecidableEq α] (sign : α) (cs : List α) : List (List α) :=
  cs.foldr (fun c parts =>
    match parts with
    | [] => [[c]]
    | part :: rest => if c = sign then [] :: part :: rest else (c :: part) :: rest) [[]]

/-- Whether characters are a number of base 60 with a colon at least, and its first digits. -/
def isBase60 (first : List Char → Bool) (cs : List Char) : Bool :=
  match splitAt ':' cs with
  | head :: tail => first head && !tail.isEmpty && tail.all isSixtieth
  | [] => false

/-- Whether characters have the form of an integer. -/
def isInt (cs : List Char) : Bool :=
  let (_, cs) := Numeral.splitSign cs
  let decimal := fun (cs : List Char) => isRun cs && cs.head? != some '0'
  cs == ['0'] || decimal cs || isBase60 decimal cs ||
    match cs with
    | '0' :: 'b' :: ds => allSome (isDigitOf 2) ds
    | '0' :: 'x' :: ds => allSome (isDigitOf 16) ds
    | '0' :: ds => allSome (isDigitOf 8) ds
    | _ => false

/-- Whether characters are nothing or an exponent with its sign. -/
def isExponent : List Char → Bool
  | [] => true
  | e :: sign :: ds =>
    (e == 'e' || e == 'E') && (sign == '-' || sign == '+') && allSome Numeral.isDigit ds
  | _ => false

/-- Whether characters are digits and underscores and then an exponent, if any. -/
def isFraction (cs : List Char) : Bool := isExponent (cs.dropWhile (isDigitOf 10))

/-- Whether characters have the form of a floating-point number. -/
def isFloat (cs : List Char) : Bool :=
  let (_, unsigned) := Numeral.splitSign cs
  let whole := unsigned.takeWhile (· ≠ '.')
  let word := String.ofList (unsigned.drop 1)
  match unsigned.drop whole.length with
  | [] => false
  | _ :: rest =>
    (isRun whole && isFraction rest) || (isBase60 isRun whole && rest.all (isDigitOf 10)) ||
      (whole.isEmpty &&
        ((cs.head? == some '.' && (rest.head?.map Numeral.isDigit).getD false && isFraction rest) ||
          isWord ["inf"] word || (cs.head? == some '.' && ["nan", "NaN", "NAN"].contains word)))

/-- The characters without a line feed at the end. -/
def chomp (cs : List Char) : List Char :=
  if cs.getLast? = some (Char.ofNat 10) ∧ cs.length ≠ 1 then cs.dropLast else cs

/-- The signs that stand for no type. -/
def reserved : List String := ["!", "&", "*"]

/-- The type that the form of a plain scalar shows. -/
def ofPlain (text : Text) : Tag :=
  let cs := chomp text.chars
  let s := String.ofList cs
  if isWord (truthWords.map (·.1)) s then bool
  else if isFloat cs then float
  else if isInt cs then int
  else if s = "<<" then merge
  else if s = "" ∨ s = "~" ∨ isWord ["null"] s then null
  else if Timestamp.isPlain cs then timestamp
  else if s = "=" then value
  else if reserved.contains s then unknown
  else str

end Tag
end Yaml
end Chip8
