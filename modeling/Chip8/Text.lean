/-
# Text

The texts of documents and of command lines.  Most of what they are made of are
characters.  A document may also name, by its code, one of the two halves of which
the codes of rare characters are made up in 16 bits; on its own such a half is no
character, but it is kept, compared and shown like one.

What is said of characters (their case, whether they are digits) says nothing of
halves.  Where a text is taken for a number, a date or a name, `chars` gives its
characters, and a half counts as the replacement character, which is part of none
of these.
-/

namespace Chip8

/-- An element of a text. -/
inductive Glyph where
  | char (c : Char)
  /-- The half with the code `0xD800 + k`. -/
  | half (k : Fin 0x800)
  deriving DecidableEq, Repr

namespace Glyph

/-- The code of a glyph. -/
def code : Glyph → Nat
  | char c => c.toNat
  | half k => 0xD800 + k.val

/-- The glyph of a code, if there is one. -/
def ofCode? (n : Nat) : Option Glyph :=
  if h : 0xD800 ≤ n ∧ n < 0xE000 then some (half ⟨n - 0xD800, by omega⟩)
  else if n < 0x110000 then some (char (Char.ofNat n))
  else none

/-- The character that stands for a glyph where only characters count. -/
def shown : Glyph → Char
  | char c => c
  | half _ => Char.ofNat 0xFFFD

/-- The glyphs that a function on characters makes of a glyph; a half stays as it is. -/
def mapChar (f : Char → List Char) : Glyph → List Glyph
  | char c => (f c).map char
  | half k => [half k]

/-- Whether a glyph is a character with a property. -/
def isChar (p : Char → Bool) : Glyph → Bool
  | char c => p c
  | half _ => false

end Glyph

/-- A row of glyphs. -/
structure Text where
  glyphs : List Glyph
  deriving DecidableEq, Repr, Inhabited

namespace Text

/-- The text of some characters. -/
def ofChars (cs : List Char) : Text := ⟨cs.map .char⟩

/-- The text of a string. -/
def ofString (s : String) : Text := ofChars s.toList

instance : Coe String Text := ⟨ofString⟩

instance : Append Text := ⟨fun a b => ⟨a.glyphs ++ b.glyphs⟩⟩

/-- The characters of a text. -/
def chars (t : Text) : List Char := t.glyphs.map Glyph.shown

/-- The text as a string, with its halves replaced. -/
def shown (t : Text) : String := String.ofList t.chars

/-- Whether there is nothing in a text. -/
def isEmpty (t : Text) : Bool := t.glyphs.isEmpty

/-- The text as a string, if it has no halves in it. -/
def string? (t : Text) : Option String :=
  if t.glyphs.all (Glyph.isChar fun _ => true) then some (String.ofList t.chars) else none

/-- Texts with a separator between them. -/
def joined (separator : Text) : List Text → Text
  | [] => ⟨[]⟩
  | [t] => t
  | t :: rest => t ++ separator ++ joined separator rest

/-- A text of characters has these characters. -/
@[simp] theorem chars_ofChars (cs : List Char) : (ofChars cs).chars = cs := by
  simp [chars, ofChars, Glyph.shown, Function.comp_def]

/-- A string comes back from its text. -/
@[simp] theorem string?_ofString (s : String) : (ofString s).string? = some s := by
  have h : (ofString s).chars = s.toList := chars_ofChars s.toList
  simp only [string?, h, String.ofList_toList]
  simp [ofString, ofChars, Glyph.isChar]

end Text
end Chip8
