/-
# The value of a scalar

What the text of a scalar stands for, given its tag.  The forms that are accepted
here are wider than those that show the type of a plain scalar, since a tag may
also be written down.

Binary data is written in base 64: bytes in groups of three, each as four letters,
digits or signs; the last group may be shorter and is then filled up with equals
signs.  Characters that are none of these are passed over.
-/

import Chip8.Text.Case
import Chip8.Value
import Chip8.Yaml.Error
import Chip8.Yaml.Tag

namespace Chip8

/-! ### Base 64 -/

namespace Text

/-- The six bits of a character. -/
def sixBits? (c : Char) : Option Nat :=
  if 'A' ≤ c ∧ c ≤ 'Z' then some (c.toNat - 65)
  else if 'a' ≤ c ∧ c ≤ 'z' then some (c.toNat - 71)
  else if '0' ≤ c ∧ c ≤ '9' then some (c.toNat + 4)
  else if c = '+' then some 62
  else if c = '/' then some 63
  else none

/-- The bytes of a text up to where it is filled up, after a group's first `pending` characters
with the bits `carry` not yet used and so many equals signs. -/
def base64From : Nat → Nat → Nat → List Char → Option (List UInt8)
  | pending, _, _, [] => if pending = 0 then some [] else none
  | pending, carry, pads, c :: rest =>
    if c = '=' then
      if 2 ≤ pending then
        if 4 ≤ pending + (pads + 1) then some [] else base64From pending carry (pads + 1) rest
      else base64From pending carry pads rest
    else
      match sixBits? c with
      | none => base64From pending carry pads rest
      | some n =>
        match pending with
        | 0 => base64From 1 n 0 rest
        | 1 => (base64From 2 (n % 16) 0 rest).map (UInt8.ofNat (carry * 4 + n / 16) :: ·)
        | 2 => (base64From 3 (n % 4) 0 rest).map (UInt8.ofNat (carry * 16 + n / 4) :: ·)
        | _ => (base64From 0 0 0 rest).map (UInt8.ofNat (carry * 64 + n) :: ·)

/-- The bytes of a text, unless its last group is incomplete. -/
def base64? (cs : List Char) : Option (List UInt8) := base64From 0 0 0 cs

end Text

/-! ### Scalars -/

namespace Yaml
namespace Tag

/-- A truth value, in any case. -/
def truthOf (text : Text) : Except DocumentError Value :=
  let word := text.lower
  match truthWords.find? fun e => word == e.1 with
  | some (_, b) => .ok (.bool b)
  | none => .error (.truth word)

/-- A text without its underscores. -/
def dropUnderscores (text : Text) : Text := ⟨text.glyphs.filter (· ≠ .char '_')⟩

/-- The glyphs of a number, parted from the sign in front of them; there must be one glyph at
least. -/
def signedGlyphs (text : Text) : Except DocumentError (Bool × List Glyph) :=
  match text.glyphs with
  | [] => .error .emptyNumber
  | .char '-' :: rest => .ok (true, rest)
  | .char '+' :: rest => .ok (false, rest)
  | gs => .ok (false, gs)

/-- An integer of a base. -/
def intOf (base : Nat) (gs : List Glyph) : Except DocumentError Int :=
  (Numeral.inBase base ⟨gs⟩).mapError .integer

/-- An integer without sign: of base 2 or 16 after a mark, of base 8 after a zero, of base 60 if
it has colons, and decimal otherwise. -/
def magnitude : List Glyph → Except DocumentError Int
  | [] => .error .emptyNumber
  | [.char '0'] => .ok 0
  | .char '0' :: .char 'b' :: ds => intOf 2 ds
  | .char '0' :: .char 'x' :: ds => intOf 16 ds
  | .char '0' :: ds => intOf 8 (.char '0' :: ds)
  | gs => do
    let ds ← (splitAt (.char ':') gs).mapM (intOf 10)
    return ds.foldl (fun n d => n * 60 + d) 0

/-- An integer; underscores are passed over. -/
def integerOf (text : Text) : Except DocumentError Value := do
  let (negative, gs) ← signedGlyphs (dropUnderscores text)
  let n ← magnitude gs
  return .int (if negative then -n else n)

/-- A decimal floating-point number. -/
def decimalFloatOf (gs : List Glyph) : Except DocumentError Float :=
  match Numeral.float? ⟨gs⟩ with
  | some x => .ok x
  | none => .error (.float ⟨gs⟩)

/-- The sum of digits of base 60, the last one first, each with its weight. -/
def sixtieths : Nat → Float → List Float → Except DocumentError Float
  | _, sum, [] => .ok sum
  | weight, sum, d :: ds =>
    match Number.nearest? weight with
    | some w => sixtieths (weight * 60) (sum + d * w) ds
    | none => .error .tooLarge

/-- The word for "not a number". -/
def nanWord : Text := ".nan"

/-- A floating-point number in any case; underscores are passed over. -/
def floatOf (text : Text) : Except DocumentError Value := do
  let (negative, gs) ← signedGlyphs (dropUnderscores text).lower
  let x ←
    if (⟨gs⟩ : Text) = ".inf" then pure (1 / 0)
    else if (⟨gs⟩ : Text) = nanWord then pure (0 / 0)
    else if gs.contains (.char ':') then do
      let ds ← (splitAt (.char ':') gs).mapM decimalFloatOf
      sixtieths 1 0 ds.reverse
    else decimalFloatOf gs
  return .float (if negative then -x else x)

/-- Whether a floating-point number is the word for "not a number". -/
def isNanWord (text : Text) : Bool :=
  match signedGlyphs (dropUnderscores text).lower with
  | .ok (_, gs) => (⟨gs⟩ : Text) == nanWord
  | .error _ => false

/-- A date, or a date with a time. -/
def timestampOf (text : Text) : Except DocumentError Value :=
  match Timestamp.ofChars? (chomp text.chars) with
  | none => .error .dateForm
  | some t =>
    match t.clock with
    | none => ((Date.ofNumbers t.year t.month t.day).map .date).mapError .calendar
    | some clock => ((t.moment clock).map .moment).mapError .calendar

/-- Bytes, written in base 64. -/
def bytesOf (text : Text) : Except DocumentError Value :=
  if text.chars.all fun c => c.toNat < 128 then
    match Text.base64? text.chars with
    | some bytes => .ok (.bytes bytes)
    | none => .error .malformed
  else .error .malformed

/-- The value of a text with a tag; a tag of a collection or of a special key has none. -/
def scalarValue (tag : Tag) (text : Text) : Except DocumentError Value :=
  match tag with
  | null => .ok .null
  | bool => truthOf text
  | int => integerOf text
  | float => floatOf text
  | binary => bytesOf text
  | timestamp => timestampOf text
  | str => .ok (.str text)
  | omap | pairs | set | seq | map | merge | value | unknown => .error .malformed

end Tag
end Yaml
end Chip8
