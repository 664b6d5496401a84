/-
# Tokens of a document

What a document's text consists of: brackets, indicators, names and scalars, and
the marks that indentation stands for.
-/

import Chip8.Yaml.Error

namespace Chip8
namespace Yaml

/-- An instruction to the reader of a document. -/
inductive Directive where
  /-- The version that the document is written in, by its major number. -/
  | version (major : Nat)
  /-- A handle for the beginnings of tags. -/
  | tag (handle lead : String)
  /-- Any other, which is ignored. -/
  | other
  deriving DecidableEq, Repr

/-- A token. -/
inductive Token where
  | directive (d : Directive)
  | documentStart
  | documentEnd
  /-- A sequence of lines that start with a hyphen. -/
  | blockSequenceStart
  /-- A mapping written line by line. -/
  | blockMappingStart
  /-- The lines become less indented. -/
  | blockEnd
  | flowSequenceStart
  | flowMappingStart
  | flowSequenceEnd
  | flowMappingEnd
  /-- A comma between items. -/
  | flowEntry
  /-- A hyphen in front of an item. -/
  | blockEntry
  /-- A key follows. -/
  | key
  /-- The value of a key follows. -/
  | value
  /-- A node that is named elsewhere. -/
  | reference (name : String)
  | anchor (name : String)
  /-- A tag, with the handle that its beginning stands for. -/
  | tag (handle : Option String) (suffix : String)
  /-- A scalar; a plain one is written without quotes. -/
  | scalar (text : Text) (plain : Bool)
  /-- From here on the text cannot be cut into tokens. -/
  | refused (e : DocumentError)
  deriving DecidableEq, Repr

end Yaml
end Chip8
