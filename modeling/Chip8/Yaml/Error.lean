/-
# Refused documents

A document is refused either because it is not well formed, or because a scalar
does not have the form that its type asks for.
-/

import Chip8.Calendar
import Chip8.Number.Binary64
import Chip8.Number.Numeral

namespace Chip8

/-- Why a text is no document. -/
inductive DocumentError where
  /-- The text, its anchors, its tags or the keys of a mapping are not well formed. -/
  | malformed
  /-- A scalar that is marked as an integer is none. -/
  | integer (e : NumeralError)
  /-- A scalar that is marked as floating point is none. -/
  | float (text : Text)
  /-- A scalar that is marked as a number is empty. -/
  | emptyNumber
  /-- A scalar that is marked as a truth value is none. -/
  | truth (text : Text)
  /-- A scalar that is marked as a date has not the form of one. -/
  | dateForm
  /-- A mapping is marked as a date. -/
  | dateMapping
  /-- Nodes are nested too deeply, or refer to each other without end. -/
  | tooDeep
  /-- Too many mappings are to take over entries of the next one in a row. -/
  | mergedTooDeep
  /-- A date or time that does not exist. -/
  | calendar (e : CalendarError)
  /-- An escape with a code beyond the last character. -/
  | character (code : Nat)
  /-- A base-60 number is too large for floating point. -/
  | tooLarge
  deriving DecidableEq, Repr, Inhabited

/-- The wording of the refusal; for a text that is not well formed there is none. -/
def DocumentError.message : DocumentError → String
  | .malformed => ""
  | .integer e => e.message
  | .float text => "could not convert string to float: " ++ Text.quoted text
  | .emptyNumber => "string index out of range"
  | .truth text => Text.quoted text
  | .dateForm => "'NoneType' object has no attribute 'groupdict'"
  | .dateMapping => "expected string or bytes-like object, got 'list'"
  | .tooDeep => "maximum recursion depth exceeded"
  | .mergedTooDeep => "maximum recursion depth exceeded in comparison"
  | .calendar e => e.message
  | .character code =>
    if code < 0x80000000 then "chr() arg not in range(0x110000)"
    else "Python int too large to convert to C int"
  | .tooLarge => Number.tooLarge

end Chip8
