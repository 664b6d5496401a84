/-
# Configurations from text

The text of a configuration is a document.  It is refused as a document if it is
none, and as a configuration if its values are not those of one.

A text may be given as a whole or as a file.  A file is read in parts of 4096
characters, of which the first two come together, and a part with a character that
may not occur in documents is refused as a whole, as soon as anything depends on it:
an error that is found before that counts first.
-/

import Chip8.Config.Parse
import Chip8.Yaml.Document

namespace Chip8

/-- Why a text is no configuration. -/
inductive ReadError where
  | document (e : DocumentError)
  | config (e : ConfigError)
  deriving DecidableEq, Repr

namespace Config

/-- The number of characters that may occur in a document, from the first one on. -/
def allowedLength (text : Text) : Nat :=
  (text.glyphs.takeWhile (Glyph.isChar Yaml.isDocumentChar)).length

/-- The document of a text. -/
def documentOf (text : Text) : Except DocumentError Document :=
  if allowedLength text = text.glyphs.length then Yaml.documentOfChars text.chars
  else .error .malformed

/-- The configuration of a text. -/
def ofText (text : Text) : Except ReadError SystemConfig := do
  let document ← (documentOf text).mapError .document
  (parse document).mapError .config

/-- A file's line ends, which may be of one or two characters, as line feeds. -/
def unifyLines : List Glyph → List Glyph
  | [] => []
  | .char '\r' :: .char '\n' :: rest => .char '\n' :: unifyLines rest
  | .char '\r' :: rest => .char '\n' :: unifyLines rest
  | g :: rest => g :: unifyLines rest

/-- The number of characters in a part of a file. -/
def partLength : Nat := 4096

/-- The number of characters in the parts before the one that ends after so many characters. -/
def earlierParts (length : Nat) : Nat :=
  if length < 2 * partLength then 0 else length / partLength * partLength

/-- The error of a file in which only so many characters may occur in a document. -/
def partError (text : Text) (length : Nat) : DocumentError :=
  match Yaml.Nodes.ofTokens (Yaml.Token.ofChars (text.chars.take (earlierParts length)) true) with
  | .error e => e
  | .ok _ => .malformed

/-- The document of a file's text. -/
def documentOfFile (text : Text) : Except DocumentError Document :=
  let length := allowedLength text
  if length = text.glyphs.length then Yaml.documentOfChars text.chars
  else .error (partError text length)

/-- The configuration of a file's text. -/
def ofFileText (text : Text) : Except ReadError SystemConfig := do
  let document ← (documentOfFile ⟨unifyLines text.glyphs⟩).mapError .document
  (parse document).mapError .config

end Config
end Chip8
