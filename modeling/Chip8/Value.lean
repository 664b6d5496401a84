/-
# Values of documents

A document is a value together with the collections that it consists of.  A value
names a collection by its number, so that the same collection can stand in several
places, and also inside itself.
-/

import Chip8.Calendar
import Chip8.Number.Binary64
import Chip8.Text

namespace Chip8

/-- A value as a document holds it. -/
inductive Value where
  | null
  | bool (b : Bool)
  | int (n : Int)
  | float (x : Float)
  | str (s : Text)
  | date (d : Date)
  | moment (m : Moment)
  | bytes (bs : List UInt8)
  /-- A collection of the document, by its number. -/
  | collection (k : Nat)
  deriving Repr, Inhabited

/-- What several values are collected in. -/
inductive Collection where
  | list (items : List Value)
  /-- A list of keys with their values. -/
  | pairs (entries : List (Value × Value))
  /-- A mapping, whose entries keep their order. -/
  | map (entries : List (Value × Value))
  | set (items : List Value)
  deriving Repr, Inhabited

/-- A value and the collections in it. -/
structure Document where
  collections : Array Collection := #[]
  root : Value := .null
  deriving Repr, Inhabited

namespace Value

/-- Whether a value is the given text. -/
def isStr (s : String) : Value → Bool
  | .str t => t == s
  | _ => false

/-- The number that a value is, if it is one; false and true are zero and one. -/
def number? : Value → Option Number
  | .bool b => some (.int (if b then 1 else 0))
  | .int n => some (.int n)
  | .float x => some (.float x)
  | _ => none

end Value

/-- Whether there is nothing in a collection. -/
def Collection.isEmpty : Collection → Bool
  | .list items | .set items => items.isEmpty
  | .pairs entries | .map entries => entries.isEmpty

namespace Document

/-- The collection of a number; a number that stands for none gives an empty list. -/
def collection (d : Document) (k : Nat) : Collection := d.collections.getD k (.list [])

/-- Whether a value counts as something: not null, false, zero or empty. -/
def isTruthy (d : Document) : Value → Bool
  | .null => false
  | .bool b => b
  | .int n => n ≠ 0
  | .float x => x != 0
  | .str s => !s.isEmpty
  | .bytes bs => !bs.isEmpty
  | .collection k => !(d.collection k).isEmpty
  | .date _ | .moment _ => true

/-- The entries of a mapping. -/
def entries? (d : Document) : Value → Option (List (Value × Value))
  | .collection k =>
    match d.collection k with
    | .map entries => some entries
    | _ => none
  | _ => none

end Document

/-- The value that entries give to a text. -/
def lookup? (entries : List (Value × Value)) (name : String) : Option Value :=
  (entries.find? fun e => e.1.isStr name).map (·.2)

end Chip8
