/-
# Letter case

Upper and lower case of texts in all scripts.  A character may become several:
the upper case of `ß` is `SS`.  Lower case looks at one neighbourhood: a capital
sigma at the end of a word becomes the final form of the letter.
-/

import Chip8.Text
import Chip8.Text.Case.Table
import Chip8.Text.Classes

namespace Chip8
namespace Text

/-- The letter that a run maps a code point to, if the code point takes part. -/
def CaseRun.image? (r : CaseRun) (code : Nat) : Option Nat :=
  if r.first ≤ code ∧ code ≤ r.last ∧ (code - r.first) % r.step = 0 then
    some (code + r.shift).toNat
  else none

/-- The code points that a code point is mapped to. -/
def mapCode (runs : List CaseRun) (expansions : List (Nat × List Nat)) (code : Nat) : List Nat :=
  match expansions.find? (·.1 = code) with
  | some (_, codes) => codes
  | none => [(runs.findSome? (·.image? code)).getD code]

/-- The upper case of a character. -/
def upperChar (c : Char) : List Char :=
  (mapCode upperRuns upperExpansions c.toNat).map Char.ofNat

/-- The upper case of a text. -/
def upper (t : Text) : Text := ⟨t.glyphs.flatMap (Glyph.mapChar upperChar)⟩

/-- The lower case of a character that has nothing around it. -/
def lowerChar (c : Char) : List Char :=
  (mapCode lowerRuns lowerExpansions c.toNat).map Char.ofNat

/-- Whether a character is a letter with case. -/
def isCased (c : Char) : Bool := inRanges casedRanges c.toNat

/-- Whether a character is passed over when looking for a letter. -/
def isCaseIgnored (c : Char) : Bool := inRanges caseIgnoredRanges c.toNat

/-- The capital letter sigma. -/
def capitalSigma : Char := Char.ofNat 0x3A3

/-- The form that sigma has at the end of a word. -/
def finalSigma : Char := Char.ofNat 0x3C2

/-- Whether the next character that counts is a letter. -/
def letterAhead (rest : List Glyph) : Bool :=
  match rest.dropWhile (Glyph.isChar isCaseIgnored) with
  | [] => false
  | g :: _ => g.isChar isCased

/-- The lower case of the rest of a text; `inWord` tells whether the last character before it
that counts is a letter. -/
def lowerFrom (inWord : Bool) : List Glyph → List Glyph
  | [] => []
  | g :: rest =>
    let isFinal := g = .char capitalSigma ∧ inWord ∧ !letterAhead rest
    let here := if isFinal then [.char finalSigma] else g.mapChar lowerChar
    here ++ lowerFrom (if g.isChar isCaseIgnored then inWord else g.isChar isCased) rest

/-- The lower case of a text. -/
def lower (t : Text) : Text := ⟨lowerFrom false t.glyphs⟩

example : upper "straße" = "STRASSE" ∧ lower "ΑΣ Σ" = "ας σ" := by decide +kernel

end Text
end Chip8
