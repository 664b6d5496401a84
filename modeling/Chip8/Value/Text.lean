/-
# The text of a value

A value on its own is shown plainly: a text as it is, a date in digits.  Inside a
collection it takes its inner form, in which texts are quoted.  A collection that
is met again inside itself is shown as dots.

An integer of more than 4300 digits is not written out, and neither is a value at
which too many collections stand inside each other.  A collection with such a value in
it is not written out either.
-/

import Chip8.Number.Shortest
import Chip8.Text.Quoted
import Chip8.Value.Order

namespace Chip8

/-- Why a value is not written out. -/
inductive WritingError where
  /-- An integer has too many digits. -/
  | tooManyDigits
  /-- Too many collections stand inside each other. -/
  | tooDeep
  deriving DecidableEq, Repr

/-- The wording of the refusal. -/
def WritingError.message : WritingError → String
  | .tooManyDigits => "Exceeds the limit (4300 digits) for integer string conversion; " ++
      "use sys.set_int_max_str_digits() to increase the limit"
  | .tooDeep => "maximum recursion depth exceeded while getting the repr of an object"

namespace Value

/-- A comma and a space between texts. -/
def commas (texts : List String) : String := ", ".intercalate texts

/-- The largest number of digits of an integer that is written out. -/
def writtenDigits : Nat := 4300

/-- The digits of an integer. -/
def digits (n : Int) : Except WritingError String :=
  if Nat.pow 10 writtenDigits ≤ n.natAbs then .error .tooManyDigits else .ok (toString n)

end Value

namespace Collection

/-- What stands for a collection inside itself. -/
def dots : Collection → String
  | .list _ | .pairs _ => "[...]"
  | .map _ | .set _ => "\x7b...\x7d"

/-- The form of a collection, given that of its values. -/
def form (inner : Value → Except WritingError String) : Collection → Except WritingError String
  | .list items => do return "[" ++ Value.commas (← items.mapM inner) ++ "]"
  | .pairs entries => do
    let shown ← entries.mapM fun (k, v) => return "(" ++ (← inner k) ++ ", " ++ (← inner v) ++ ")"
    return "[" ++ Value.commas shown ++ "]"
  | .map entries => do
    let shown ← entries.mapM fun (k, v) => return (← inner k) ++ ": " ++ (← inner v)
    return "\x7b" ++ Value.commas shown ++ "\x7d"
  | .set items => do
    if items.isEmpty then return "set()"
    return "\x7b" ++ Value.commas (← (Value.ordered items).mapM inner) ++ "\x7d"

end Collection

namespace Document

/-- The number of values that may stand inside each other where one is written out.  Each of them
takes a call of its own, and a host allows a thousand calls inside each other.  Fifteen are counted
here for those that are under way when the message of a refused configuration is put together; a
host that comes to it from further down has fewer left. -/
def writtenDepth : Nat := 985

/-- The form of a value inside the collections `around`, which holds so many values inside each
other.  A pair in a list counts as one, and so does the row of what is in a set. -/
def innerIn (d : Document) : Nat → List Nat → Value → Except WritingError String
  | 0, _, _ => .error .tooDeep
  | depth + 1, around, .collection k =>
    let c := d.collection k
    if around.contains k then .ok c.dots
    else
      match c, depth with
      | .pairs _, depth + 1 | .set _, depth + 1 => c.form fun v => d.innerIn depth (k :: around) v
      | _, depth => c.form fun v => d.innerIn depth (k :: around) v
  | _, _, .null => .ok "None"
  | _, _, .bool b => .ok (if b then "True" else "False")
  | _, _, .int n => Value.digits n
  | _, _, .float x => .ok (Number.floatText x)
  | _, _, .str s => .ok (Text.quoted s)
  | _, _, .date d => .ok d.inner
  | _, _, .moment m => .ok m.inner
  | _, _, .bytes bs => .ok (Text.quotedBytes bs)

/-- The form of a value inside a collection. -/
def inner (d : Document) (v : Value) : Except WritingError String := d.innerIn writtenDepth [] v

/-- The text of a value on its own. -/
def text (d : Document) (v : Value) : Except WritingError Text :=
  match v with
  | .str s => .ok s
  | .date d => .ok d.text
  | .moment m => .ok m.text
  | v => (d.inner v).map Text.ofString

end Document
end Chip8
