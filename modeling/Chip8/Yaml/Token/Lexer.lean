/-
# Cutting a text into tokens

Outside brackets the indentation of lines counts: a line that is more indented
than the ones around it opens a sequence or a mapping, and a less indented one
closes what is open.

A key is only known as one when the colon after it is found.  So the place of
every possible key is remembered, one for each depth of brackets, and the token
that announces the key is put in there later.  A possible key is given up at the
end of its line and after 1024 characters; one that starts a line of a block must
be a key.
-/

import Chip8.Yaml.Scalar
import Chip8.Yaml.Token

namespace Chip8
namespace Yaml

/-- The place of a token that may turn out to be a key. -/
structure PossibleKey where
  /-- The number of tokens before it. -/
  number : Nat
  /-- The number of brackets around it. -/
  depth : Nat
  /-- Whether the text is malformed if it is none. -/
  required : Bool
  start : Cursor

/-- The state between two tokens. -/
structure Lexer where
  cursor : Cursor
  /-- The tokens so far, the last one first. -/
  done : List Token := []
  /-- The number of them. -/
  count : Nat := 0
  /-- The column of the innermost open block. -/
  indent : Int := -1
  /-- The columns of the blocks around it. -/
  outerIndents : List Int := []
  /-- Whether a key may start here. -/
  keyAllowed : Bool := true
  /-- The number of open brackets. -/
  depth : Nat := 0
  /-- The possible keys, at most one for each depth, the innermost one first. -/
  keys : List PossibleKey := []

namespace Lexer

/-- Whether the cursor is inside brackets. -/
def inFlow (l : Lexer) : Bool := l.depth != 0

/-- The column of the cursor. -/
def column (l : Lexer) : Int := l.cursor.column

/-- Adds a token. -/
def emit (l : Lexer) (t : Token) : Lexer := { l with done := t :: l.done, count := l.count + 1 }

/-- Adds a token behind so many others. -/
def emitAt (l : Lexer) (number : Nat) (t : Token) : Lexer :=
  let later := l.count - number
  { l with done := l.done.take later ++ t :: l.done.drop later, count := l.count + 1 }

/-- Moves the cursor. -/
def moveTo (l : Lexer) (c : Cursor) : Lexer := { l with cursor := c }

/-- The possible key at this depth, and those outside the innermost brackets. -/
def splitKeys (l : Lexer) : Option PossibleKey × List PossibleKey :=
  match l.keys with
  | k :: outer => if k.depth = l.depth then (some k, outer) else (none, l.keys)
  | [] => (none, [])

/-- Gives up the possible key at this depth. -/
def dropKey (l : Lexer) : Except DocumentError Lexer :=
  match l.splitKeys with
  | (some k, keys) => if k.required then .error .malformed else .ok { l with keys }
  | (none, _) => .ok l

/-- Whether a possible key is on another line or too far back. -/
def isStale (c : Cursor) (k : PossibleKey) : Bool :=
  k.start.line ≠ c.line || 1024 < c.index - k.start.index

/-- Gives up the stale possible keys of all depths. -/
def dropStale (l : Lexer) : Except DocumentError Lexer :=
  if l.keys.any fun k => k.required && isStale l.cursor k then .error .malformed
  else .ok { l with keys := l.keys.filter fun k => !isStale l.cursor k }

/-- Remembers that the next token may be a key. -/
def noteKey (l : Lexer) : Except DocumentError Lexer :=
  if l.keyAllowed then do
    let l ← l.dropKey
    let required := !l.inFlow && decide (l.indent = l.column)
    return { l with keys := ⟨l.count, l.depth, required, l.cursor⟩ :: l.keys }
  else .ok l

/-- The columns that stay open at a column, and the number of blocks that are closed. -/
def unwound (column : Int) : Int → List Int → Nat × Int × List Int
  | indent, [] => (0, indent, [])
  | indent, outer :: more =>
    if column < indent then
      let (n, rest) := unwound column outer more
      (n + 1, rest)
    else (0, indent, outer :: more)

/-- Closes the blocks that are more indented than a column. -/
def closeTo (l : Lexer) (column : Int) : Lexer :=
  if l.inFlow then l
  else
    let (n, indent, outerIndents) := unwound column l.indent l.outerIndents
    { l with
      indent, outerIndents, done := List.replicate n .blockEnd ++ l.done, count := l.count + n }

/-- Opens a block at a column behind so many tokens, if it is more indented than the open ones
and not inside brackets. -/
def openAt (l : Lexer) (column : Int) (number : Nat) (t : Token) : Lexer :=
  if !l.inFlow && decide (l.indent < column) then
    { l.emitAt number t with indent := column, outerIndents := l.indent :: l.outerIndents }
  else l

/-- Opens a block at the cursor, where a line must start. -/
def openHere (l : Lexer) (t : Token) : Except DocumentError Lexer :=
  if l.inFlow then .ok l
  else if l.keyAllowed then .ok (l.openAt l.column l.count t)
  else .error .malformed

/-- Says whether a key may come next. -/
def allowKey (l : Lexer) (allowed : Bool) : Lexer := { l with keyAllowed := allowed }

/-! ### Blanks -/

/-- Skips blanks, comments and line breaks; outside brackets a key may start a new line. -/
def skipLines : Nat → Lexer → Lexer
  | 0, l => l
  | fuel + 1, l =>
    let c := l.cursor.skipSpaces.skipComment
    match c.lineBreak? with
    | some (_, c) => skipLines fuel { l with cursor := c, keyAllowed := l.keyAllowed || !l.inFlow }
    | none => l.moveTo c

/-- Moves on to the next token.  A mark at the very beginning is skipped. -/
def toToken (l : Lexer) : Lexer :=
  let c := l.cursor
  let c := if c.index == 0 && c.here == byteOrderMark then c.next else c
  skipLines c.fuel (l.moveTo c)

/-! ### Names, tags and directives -/

/-- Whether a character is an ASCII letter or digit. -/
def isAlphanumeric (c : Char) : Bool := c.isAlphanum

/-- Whether a character can be part of a name. -/
def isNameChar (c : Char) : Bool := isAlphanumeric c || c == '-' || c == '_'

/-- A name, which has a character at least. -/
def name (c : Cursor) : Except DocumentError (String × Cursor) :=
  let (cs, c) := c.span isNameChar
  if cs.isEmpty then .error .malformed else .ok (String.ofList cs, c)

/-- Whether a name may stop before a character. -/
def endsName (c : Char) : Bool := isGap c || "?:,]\x7d%@`".toList.contains c

/-- The name of a node or of a reference; the cursor stands at its mark. -/
def anchorName (c : Cursor) : Except DocumentError (String × Cursor) := do
  let (name, c) ← name c.next
  if endsName c.here then return (name, c) else throw .malformed

/-- Whether a character can be part of a tag. -/
def isTagChar (c : Char) : Bool :=
  isAlphanumeric c || c == Text.singleQuote || "-;/?:@&=+$,_.!~*()[]%".toList.contains c

/-- The bytes of escapes, each a percent sign and two hexadecimal digits. -/
def escapedBytes : List Char → Except DocumentError (List UInt8 × List Char)
  | '%' :: a :: b :: rest =>
    match Numeral.digitOf? 16 a, Numeral.digitOf? 16 b with
    | some x, some y => do
      let (bytes, rest) ← escapedBytes rest
      return (UInt8.ofNat (x * 16 + y) :: bytes, rest)
    | _, _ => .error .malformed
  | '%' :: _ => .error .malformed
  | cs => .ok ([], cs)

/-- The text of a tag with its escapes resolved. -/
def unescaped : Nat → List Char → Except DocumentError (List Char)
  | 0, _ => .error .malformed
  | _, [] => .ok []
  | fuel + 1, '%' :: rest => do
    let (bytes, rest) ← escapedBytes ('%' :: rest)
    match String.fromUTF8? (ByteArray.mk bytes.toArray) with
    | some s => return s.toList ++ (← unescaped fuel rest)
    | none => throw .malformed
  | fuel + 1, c :: rest => do return c :: (← unescaped fuel rest)

/-- A tag or the beginning of tags, which has a character at least. -/
def tagText (c : Cursor) : Except DocumentError (String × Cursor) := do
  let (cs, c) := c.span isTagChar
  if cs.isEmpty then throw .malformed
  return (String.ofList (← unescaped (cs.length + 1) cs), c)

/-- A handle: one exclamation mark, or a name, which may be empty, between two of them. -/
def handle (c : Cursor) : Except DocumentError (String × Cursor) :=
  if c.here ≠ '!' then .error .malformed
  else if c.peek 1 = ' ' then .ok ("!", c.next)
  else
    let (cs, c) := c.next.span isNameChar
    if c.here = '!' then .ok (String.ofList ('!' :: cs ++ ['!']), c.next) else .error .malformed

/-- A tag; the cursor stands at its mark. -/
def tag (c : Cursor) : Except DocumentError (Token × Cursor) := do
  let (token, c) ←
    if c.peek 1 = '<' then do
      let (suffix, c) ← tagText (c.forward 2)
      if c.here ≠ '>' then throw .malformed
      pure (Token.tag none suffix, c.next)
    else if isGap (c.peek 1) then pure (Token.tag none "!", c.next)
    else do
      let word := c.next.rest.takeWhile fun ch => !isGapButTab ch
      let (handle, c) ← if word.contains '!' then handle c else pure ("!", c.next)
      let (suffix, c) ← tagText c
      pure (Token.tag (some handle) suffix, c)
  if isGapButTab c.here then return (token, c) else throw .malformed

/-- A number of a version. -/
def versionNumber (c : Cursor) : Except DocumentError (Nat × Cursor) := do
  let (cs, c) := c.span Numeral.isDigit
  if cs.isEmpty || c.isLost then throw .malformed
  let n ← (Numeral.inBase 10 (String.ofList cs)).mapError .integer
  return (n.toNat, c)

/-- What follows the name of a directive. -/
def directiveRest (name : String) (c : Cursor) : Except DocumentError (Directive × Cursor) := do
  if name = "YAML" then
    let (major, c) ← versionNumber c.skipSpaces
    if c.here ≠ '.' then throw .malformed
    let (_, c) ← versionNumber c.next
    if !isGapButTab c.here then throw .malformed
    return (.version major, c)
  else if name = "TAG" then
    let (handle, c) ← handle c.skipSpaces
    if c.here ≠ ' ' then throw .malformed
    let (lead, c) ← tagText c.skipSpaces
    if !isGapButTab c.here then throw .malformed
    return (.tag handle lead, c)
  else return (.other, c.skip fun ch => !isBreakOrEnd ch)

/-- A directive; the cursor stands at its mark. -/
def directive (c : Cursor) : Except DocumentError (Token × Cursor) := do
  let (name, c) ← name c.next
  if !isGapButTab c.here then throw .malformed
  let (d, c) ← directiveRest name c
  let c := c.skipSpaces.skipComment
  if isBreakOrEnd c.here then return (.directive d, c.skipBreak) else throw .malformed

/-! ### Tokens -/

/-- Takes so many characters as a token. -/
def take (l : Lexer) (length : Nat) (t : Token) : Lexer :=
  (l.emit t).moveTo (l.cursor.forward length)

/-- A token at the beginning of a line that closes every block. -/
def topLevel (l : Lexer) : Except DocumentError Lexer := do
  return (← (l.closeTo (-1)).dropKey).allowKey false

/-- An opening bracket. -/
def openBracket (l : Lexer) (t : Token) : Except DocumentError Lexer := do
  let l ← l.noteKey
  return { l.take 1 t with depth := l.depth + 1, keyAllowed := true }

/-- A closing bracket, for which one must be open. -/
def closeBracket (l : Lexer) (t : Token) : Except DocumentError Lexer := do
  let l ← l.dropKey
  if l.inFlow then return { l.take 1 t with depth := l.depth - 1, keyAllowed := false }
  else throw .malformed

/-- A comma. -/
def comma (l : Lexer) : Except DocumentError Lexer := do
  return (← l.dropKey).allowKey true |>.take 1 .flowEntry

/-- A hyphen in front of an item. -/
def hyphen (l : Lexer) : Except DocumentError Lexer := do
  let l ← l.openHere .blockSequenceStart
  return (← l.dropKey).allowKey true |>.take 1 .blockEntry

/-- A question mark in front of a key. -/
def questionMark (l : Lexer) : Except DocumentError Lexer := do
  let l ← l.openHere .blockMappingStart
  return (← l.dropKey).allowKey (!l.inFlow) |>.take 1 .key

/-- A colon: what was a possible key is now known to be one. -/
def colon (l : Lexer) : Except DocumentError Lexer := do
  match l.splitKeys with
  | (some k, keys) =>
    let l := { l with keys }.emitAt k.number .key
    let l := l.openAt k.start.column k.number .blockMappingStart
    return l.allowKey false |>.take 1 .value
  | (none, _) =>
    let l ← l.openHere .blockMappingStart
    return l.allowKey (!l.inFlow) |>.take 1 .value

/-- A token that may be a key, and the place after it. -/
def keyLike (l : Lexer) (read : Cursor → Except DocumentError (Token × Cursor)) :
    Except DocumentError Lexer := do
  let l ← l.noteKey
  let (t, c) ← read l.cursor
  return (l.allowKey false |>.emit t).moveTo c

/-- A name with its mark as a token. -/
def named (f : String → Token) (c : Cursor) : Except DocumentError (Token × Cursor) := do
  let (name, c) ← anchorName c
  return (f name, c)

/-- A scalar in quotes as a token. -/
def quotedScalar (c : Cursor) : Except DocumentError (Token × Cursor) := do
  let (gs, c) ← Scalar.quoted c
  return (.scalar ⟨gs⟩ false, c)

/-- A block scalar, which is no key. -/
def blockScalar (l : Lexer) : Except DocumentError Lexer := do
  let l ← l.dropKey
  let (cs, c) ← Scalar.block l.indent l.cursor
  return (l.allowKey true |>.emit (.scalar (Text.ofChars cs) false)).moveTo c

/-- A plain scalar. -/
def plainScalar (l : Lexer) : Except DocumentError Lexer := do
  let l ← l.noteKey
  let p := Scalar.plain l.inFlow (l.indent + 1) l.cursor
  return (l.allowKey p.broken |>.emit (.scalar (Text.ofChars p.text) true)).moveTo p.after

/-- Whether a character has a meaning of its own at the start of a token. -/
def isIndicator (c : Char) : Bool :=
  c == Text.singleQuote || c == Text.doubleQuote || "-?:,[]\x7b\x7d#&*!|>%@`".toList.contains c

/-- Whether a plain scalar starts at the cursor. -/
def startsPlain (l : Lexer) : Bool :=
  let c := l.cursor.here
  !(isGap c || isIndicator c) ||
    (!isGap (l.cursor.peek 1) && (c == '-' || (!l.inFlow && (c == '?' || c == ':'))))

/-- Adds the token at the cursor. -/
def token (l : Lexer) : Except DocumentError Lexer :=
  let c := l.cursor
  let ch := c.here
  let lineStart := c.column == 0
  let gapNext := isGap (c.peek 1)
  if ch == '%' && lineStart then do
    let l ← l.topLevel
    let (t, c) ← directive l.cursor
    return (l.emit t).moveTo c
  else if lineStart && c.threeOf '-' then return (← l.topLevel).take 3 .documentStart
  else if lineStart && c.threeOf '.' then return (← l.topLevel).take 3 .documentEnd
  else if ch == '[' then l.openBracket .flowSequenceStart
  else if ch == '\x7b' then l.openBracket .flowMappingStart
  else if ch == ']' then l.closeBracket .flowSequenceEnd
  else if ch == '\x7d' then l.closeBracket .flowMappingEnd
  else if ch == ',' then l.comma
  else if ch == '-' && gapNext then l.hyphen
  else if ch == '?' && (l.inFlow || gapNext) then l.questionMark
  else if ch == ':' && (l.inFlow || gapNext) then l.colon
  else if ch == '*' then l.keyLike (named .reference)
  else if ch == '&' then l.keyLike (named .anchor)
  else if ch == '!' then l.keyLike tag
  else if (ch == '|' || ch == '>') && !l.inFlow then l.blockScalar
  else if ch == Text.singleQuote || ch == Text.doubleQuote then l.keyLike quotedScalar
  else if l.startsPlain then l.plainScalar
  else throw .malformed

/-- Moves on to the next token and adds it, or finds the end. -/
def step (l : Lexer) : Except DocumentError (Lexer × Bool) := do
  let l ← l.toToken.dropStale
  if l.cursor.isLost then throw .malformed
  if l.cursor.atEnd then return (← l.topLevel, true)
  let l ← (l.closeTo l.column).token
  -- where the token ends is seen by the character after it
  if l.cursor.isLost then throw .malformed
  return (l, false)

/-- The tokens that are settled: those before every possible key. -/
def settled (l : Lexer) : List Token :=
  let keys := l.keys.filter fun k => !isStale l.cursor k
  let number := (keys.map (·.number)).foldl min l.count
  l.done.reverse.take number

/-- The tokens from here on together with those before. -/
def run : Nat → Lexer → List Token
  | 0, l => l.settled ++ [.refused .malformed]
  | fuel + 1, l =>
    match l.step with
    | .error e => l.settled ++ [.refused e]
    | .ok (l, true) => l.done.reverse
    | .ok (l, false) => run fuel l

end Lexer

/-- Whether a character may occur in a document. -/
def isDocumentChar (c : Char) : Bool :=
  let n := c.toNat
  c == tab || c == lineFeed || c == carriageReturn || (0x20 ≤ n && n ≤ 0x7E) || n == 0x85 ||
    (0xA0 ≤ n && n ≤ 0xD7FF) || (0xE000 ≤ n && n ≤ 0xFFFD) || 0x10000 ≤ n

/-- The tokens of characters, after which there may be others that cannot be read; the last token
is `refused` if the tokens do not reach the end. -/
def Token.ofChars (cs : List Char) (cut : Bool) : List Token :=
  let c := Cursor.ofChars cs cut
  Lexer.run (c.fuel + 1) { cursor := c }

end Yaml
end Chip8
