/-
# Scalars in text

The four ways to write a scalar: plain, in single or double quotes, and as a
block of lines.  Line breaks inside are folded: a single one becomes a space and
each further one a line feed, except in a literal block, which keeps its lines.

Each function starts at a cursor and gives the scalar's text with the place after
it.
-/

import Chip8.Yaml.Cursor
import Chip8.Yaml.Error

namespace Chip8
namespace Yaml

/-- Characters read from a cursor, and the place after them. -/
abbrev Read := Except DocumentError (List Char × Cursor)

/-- Glyphs read from a cursor, and the place after them. -/
abbrev ReadGlyphs := Except DocumentError (List Glyph × Cursor)

namespace Scalar

/-- What a break and the further breaks after it are folded to. -/
def fold (first : Char) (more : List Char) : List Char :=
  if first ≠ lineFeed then first :: more
  else if more.isEmpty then [' '] else more

/-! ### Quoted scalars -/

/-- Further breaks inside quotes, with the blanks around them. -/
def quotedBreaks : Nat → Cursor → Read
  | 0, _ => .error .malformed
  | fuel + 1, c =>
    if c.atSeparator then .error .malformed
    else
      let c := c.skip isSpaceOrTab
      match c.lineBreak? with
      | none => .ok ([], c)
      | some (b, c) => do
        let (more, c) ← quotedBreaks fuel c
        return (b :: more, c)

/-- Blanks inside quotes, folded if there is a break among them. -/
def quotedBlanks (c : Cursor) : Read :=
  let (blanks, c) := c.span isSpaceOrTab
  match c.lineBreak? with
  | none => .ok (blanks, c)
  | some (b, c) => do
    let (more, c) ← quotedBreaks c.fuel c
    return (fold b more, c)

/-- The characters that stand for another one after a backslash. -/
def escapes : List (Char × Nat) :=
  [('0', 0x00), ('a', 0x07), ('b', 0x08), ('t', 0x09), (tab, 0x09), ('n', 0x0A), ('v', 0x0B),
    ('f', 0x0C), ('r', 0x0D), ('e', 0x1B), (' ', 0x20), (Text.doubleQuote, 0x22), ('/', 0x2F),
    (Text.backslash, 0x5C), ('N', 0x85), ('_', 0xA0), ('L', 0x2028), ('P', 0x2029)]

/-- The number of digits after an escape with a code. -/
def escapeWidth? (c : Char) : Option Nat :=
  if c = 'x' then some 2 else if c = 'u' then some 4 else if c = 'U' then some 8 else none

/-- A code of so many hexadecimal digits. -/
def hexCode? (width : Nat) (c : Cursor) : Option Nat :=
  let ds := c.rest.take width
  if ds.length = width ∧ ds.all (fun d => (Numeral.digitOf? 16 d).isSome) then
    some (Numeral.ofDigits 16 ds)
  else none

/-- What stands after a backslash in double quotes. -/
def escape (c : Cursor) : ReadGlyphs :=
  match escapes.find? (·.1 = c.here) with
  | some (_, code) => .ok ([.char (Char.ofNat code)], c.next)
  | none =>
    match escapeWidth? c.here with
    | some width =>
      match hexCode? width c.next with
      | some code =>
        match Glyph.ofCode? code with
        | some g => .ok ([g], c.next.forward width)
        | none => .error (.character code)
      | none => .error .malformed
    | none =>
      if isBreak c.here then do
        let (breaks, c) ← quotedBreaks c.fuel c.skipBreak
        return (breaks.map .char, c)
      else .error .malformed

/-- The glyphs up to the closing quote; `done` are those before the cursor, the last one first. -/
def quotedFrom (double : Bool) : Nat → Cursor → List Glyph → ReadGlyphs
  | 0, _, _ => .error .malformed
  | fuel + 1, c, done =>
    let quote := if double then Text.doubleQuote else Text.singleQuote
    if c.atEnd then .error .malformed
    else if isSpaceOrTab c.here || isBreak c.here then do
      let (blanks, c) ← quotedBlanks c
      quotedFrom double fuel c ((blanks.map .char).reverse ++ done)
    else if c.here == quote then
      if !double && c.peek 1 == quote then
        quotedFrom double fuel (c.forward 2) (.char quote :: done)
      else .ok (done.reverse, c.next)
    else if double && c.here == Text.backslash then do
      let (gs, c) ← escape c.next
      quotedFrom double fuel c (gs.reverse ++ done)
    else quotedFrom double fuel c.next (.char c.here :: done)

/-- A scalar in quotes; the cursor stands at the opening one. -/
def quoted (c : Cursor) : ReadGlyphs :=
  quotedFrom (c.here == Text.doubleQuote) c.fuel c.next []

/-! ### Plain scalars -/

/-- Whether a character means something of its own inside brackets. -/
def isFlowIndicator (c : Char) : Bool := c == ',' || c == '[' || c == ']' || c == '{' || c == '}'

/-- Whether a plain scalar stops at a character, given the one after it. -/
def stopsPlain (flow : Bool) (c after : Char) : Bool :=
  isGap c || (c == ':' && (isGap after || (flow && isFlowIndicator after))) ||
    (flow && (isFlowIndicator c || c == '?'))

/-- The number of characters before a plain scalar stops. -/
def plainLength (flow : Bool) : List Char → Nat
  | [] => 0
  | c :: rest => if stopsPlain flow c (rest.headD endMark) then 0 else plainLength flow rest + 1

/-- The breaks after the first one inside a plain scalar, `none` if the document ends there. -/
def plainBreaks : Nat → Cursor → Option (List Char) × Cursor
  | 0, c => (none, c)
  | fuel + 1, c =>
    if c.here == ' ' then plainBreaks fuel c.next
    else
      match c.lineBreak? with
      | none => (some [], c)
      | some (b, c) =>
        if c.atSeparator then (none, c)
        else
          let (more, c) := plainBreaks fuel c
          (more.map (b :: ·), c)

/-- What stands between two words of a plain scalar: the folded blanks, `none` if no word can
follow, and whether a line was broken. -/
def plainBlanks (c : Cursor) : Option (List Char) × Bool × Cursor :=
  let (spaces, c) := c.span (· == ' ')
  match c.lineBreak? with
  | none => (if spaces.isEmpty then none else some spaces, false, c)
  | some (b, c) =>
    if c.atSeparator then (none, true, c)
    else
      let (more, c) := plainBreaks c.fuel c
      (more.map (fold b), true, c)

/-- A plain scalar: its text, whether a line was broken after it, and the place after it. -/
structure Plain where
  text : List Char
  broken : Bool
  after : Cursor

/-- A plain scalar from here on, after the words `done`, their last character first, and the
blanks `blanks`. -/
def plainFrom (flow : Bool) (indent : Int) :
    Nat → Cursor → List Char → List Char → Bool → Plain
  | 0, c, done, _, broken => ⟨done.reverse, broken, c⟩
  | fuel + 1, c, done, blanks, broken =>
    let length := if c.here == '#' then 0 else plainLength flow c.rest
    if length = 0 then ⟨done.reverse, broken, c⟩
    else
      let done := (c.rest.take length).reverse ++ (blanks.reverse ++ done)
      let (blanks?, broken, c) := plainBlanks (c.forward length)
      match blanks? with
      | none => ⟨done.reverse, broken, c⟩
      | some blanks =>
        if c.here == '#' || (!flow && decide ((c.column : Int) < indent)) then
          ⟨done.reverse, broken, c⟩
        else plainFrom flow indent fuel c done blanks broken

/-- A plain scalar, whose further lines must be indented to `indent` outside brackets. -/
def plain (flow : Bool) (indent : Int) (c : Cursor) : Plain :=
  plainFrom flow indent c.fuel c [] [] false

/-! ### Block scalars -/

/-- What happens to the breaks at the end of a block. -/
inductive Chomping where
  /-- One is kept. -/
  | clip
  /-- None is kept. -/
  | strip
  /-- All are kept. -/
  | keep
  deriving DecidableEq, Repr

/-- The chomping of an indicator. -/
def chomping? (c : Char) : Option Chomping :=
  if c = '+' then some .keep else if c = '-' then some .strip else none

/-- The indicators after the mark of a block, in any order: chomping and indentation. -/
def blockHeader (c : Cursor) : Except DocumentError (Chomping × Option Nat × Cursor) := do
  let digit := fun (c : Cursor) => Numeral.digitOf? 10 c.here
  let (chomping, increment, c) := match chomping? c.here with
    | some chomping =>
      match digit c.next with
      | some d => (chomping, some d, c.forward 2)
      | none => (chomping, none, c.next)
    | none =>
      match digit c with
      | some d =>
        match chomping? c.next.here with
        | some chomping => (chomping, some d, c.forward 2)
        | none => (Chomping.clip, some d, c.next)
      | none => (Chomping.clip, none, c)
  if increment = some 0 then throw .malformed
  if !isGapButTab c.here then throw .malformed
  let c := c.skipSpaces.skipComment
  if !isBreakOrEnd c.here then throw .malformed
  return (chomping, increment, c.skipBreak)

/-- The empty lines at the beginning of a block and the greatest indentation among them and
the first line that is not empty. -/
def blockIndentation : Nat → Cursor → Nat → List Char × Nat × Cursor
  | 0, c, greatest => ([], greatest, c)
  | fuel + 1, c, greatest =>
    match c.lineBreak? with
    | some (b, c) =>
      let (more, greatest, c) := blockIndentation fuel c greatest
      (b :: more, greatest, c)
    | none =>
      if c.here == ' ' then blockIndentation fuel c.next (max greatest c.next.column)
      else ([], greatest, c)

/-- The place after spaces up to a column. -/
def skipTo (indent : Nat) (c : Cursor) : Cursor :=
  c.forward ((c.rest.take (indent - c.column)).takeWhile (· == ' ')).length

/-- Empty lines inside a block, and the place where the next line starts. -/
def blockBreaks (indent : Nat) : Nat → Cursor → List Char × Cursor
  | 0, c => ([], c)
  | fuel + 1, c =>
    let c := skipTo indent c
    match c.lineBreak? with
    | none => ([], c)
    | some (b, c) =>
      let (more, c) := blockBreaks indent fuel c
      (b :: more, c)

/-- The text of a block before its end: the last break and the empty lines after it stand
apart. -/
structure Block where
  text : List Char
  last : List Char
  trailing : List Char
  after : Cursor

/-- The lines of a block from here on, after the text `done`, its last character first, and the
empty lines `breaks`. -/
def blockLines (folded : Bool) (indent : Nat) :
    Nat → Cursor → List Char → List Char → List Char → Block
  | 0, c, done, last, breaks => ⟨done.reverse, last, breaks, c⟩
  | fuel + 1, c, done, last, breaks =>
    if c.column ≠ indent ∨ c.atEnd then ⟨done.reverse, last, breaks, c⟩
    else
      let wordFirst := !isSpaceOrTab c.here
      let (line, c) := c.span fun ch => !isBreakOrEnd ch
      let done := line.reverse ++ (breaks.reverse ++ done)
      let (last, c) := match c.lineBreak? with
        | some (b, c) => ([b], c)
        | none => ([], c)
      let (breaks, c) := blockBreaks indent c.fuel c
      if c.column = indent ∧ !c.atEnd then
        let joint :=
          if folded && last == [lineFeed] && wordFirst && !isSpaceOrTab c.here then
            (if breaks.isEmpty then [' '] else [])
          else last
        blockLines folded indent fuel c (joint.reverse ++ done) [] breaks
      else ⟨done.reverse, last, breaks, c⟩

/-- A block scalar; the cursor stands at its mark, and lines around it are indented to
`indent`. -/
def block (indent : Int) (c : Cursor) : Read := do
  let folded := c.here == '>'
  let (chomping, increment, c) ← blockHeader c.next
  let least := (max 1 (indent + 1)).toNat
  let (breaks, indent, c) := match increment with
    | none =>
      let (breaks, greatest, c) := blockIndentation c.fuel c 0
      (breaks, max least greatest, c)
    | some d =>
      let (breaks, c) := blockBreaks (least + d - 1) c.fuel c
      (breaks, least + d - 1, c)
  let b := blockLines folded indent c.fuel c [] [] breaks
  let tail := match chomping with
    | .clip => b.last
    | .strip => []
    | .keep => b.last ++ b.trailing
  return (b.text ++ tail, b.after)

end Scalar
end Yaml
end Chip8
