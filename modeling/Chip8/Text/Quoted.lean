/-
# Quoted text

A text inside a list, a mapping or a message about a bad number is shown in
quotes.  The quotes are single ones, unless the text has a single quote and no
double quote in it.  The quote itself and the backslash are escaped, as are tab,
line feed and carriage return; halves and other characters that cannot be printed
are written by their code, with two, four or eight digits.
-/

import Chip8.Text
import Chip8.Text.Classes
import Chip8.Text.Hex

namespace Chip8
namespace Text

/-- The single quote. -/
def singleQuote : Char := Char.ofNat 39

/-- The double quote. -/
def doubleQuote : Char := Char.ofNat 34

/-- The backslash. -/
def backslash : Char := Char.ofNat 92

/-- The quote to put around characters. -/
def quoteFor (cs : List Char) : Char :=
  if cs.contains singleQuote && !cs.contains doubleQuote then doubleQuote else singleQuote

/-- A code point with as many digits as it needs: two, four or eight. -/
def codeEscape (code : Nat) : List Char :=
  let ds := hexDigits code
  if code < 0x100 then backslash :: 'x' :: zeroFill 2 ds
  else if code < 0x10000 then backslash :: 'u' :: zeroFill 4 ds
  else backslash :: 'U' :: zeroFill 8 ds

/-- The escapes that every quoted text has, whatever else is printed as it is. -/
def commonEscape? (quote c : Char) : Option (List Char) :=
  if c = quote ∨ c = backslash then some [backslash, c]
  else if c = Char.ofNat 9 then some [backslash, 't']
  else if c = Char.ofNat 10 then some [backslash, 'n']
  else if c = Char.ofNat 13 then some [backslash, 'r']
  else none

/-- A character between quotes. -/
def escapeChar (quote c : Char) : List Char :=
  (commonEscape? quote c).getD (if isPrintable c then [c] else codeEscape c.toNat)

/-- A glyph between quotes. -/
def escapeGlyph (quote : Char) : Glyph → List Char
  | .char c => escapeChar quote c
  | .half k => codeEscape (Glyph.half k).code

/-- A text in quotes. -/
def quoted (t : Text) : String :=
  let q := quoteFor t.chars
  String.ofList (q :: t.glyphs.flatMap (escapeGlyph q) ++ [q])

/-- A byte between quotes; only ASCII is printed as it is. -/
def escapeByte (quote : Char) (b : UInt8) : List Char :=
  let c := Char.ofNat b.toNat
  (commonEscape? quote c).getD
    (if 0x20 ≤ b ∧ b < 0x7F then [c] else codeEscape b.toNat)

/-- Bytes in quotes, marked with a `b`. -/
def quotedBytes (bs : List UInt8) : String :=
  let q := quoteFor (bs.map fun b => Char.ofNat b.toNat)
  String.ofList ('b' :: q :: bs.flatMap (escapeByte q) ++ [q])

end Text
end Chip8
