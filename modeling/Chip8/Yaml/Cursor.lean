/-
# A place in a text

A cursor is the rest of a text together with the place where it starts: how many
characters, line breaks and columns lie before it.  There are five characters
that break a line, and a carriage return with a line feed breaks it once.

Of a text whose further characters cannot be read there is only the beginning.  A
cursor that has come to the end of such a text is lost: whatever depends on the
character there is refused.
-/

namespace Chip8
namespace Yaml

/-- What is seen at the end of a text. -/
def endMark : Char := Char.ofNat 0

/-- The line feed. -/
def lineFeed : Char := Char.ofNat 10

/-- The carriage return. -/
def carriageReturn : Char := Char.ofNat 13

/-- The tab. -/
def tab : Char := Char.ofNat 9

/-- The mark that may open a text; it takes no column. -/
def byteOrderMark : Char := Char.ofNat 0xFEFF

/-- The breaks that are kept as they are: of lines and of paragraphs. -/
def isKeptBreak (c : Char) : Bool := c.toNat == 0x2028 || c.toNat == 0x2029

/-- Whether a character breaks a line. -/
def isBreak (c : Char) : Bool :=
  c == lineFeed || c == carriageReturn || c.toNat == 0x85 || isKeptBreak c

/-- Whether a character breaks a line or is the end of the text. -/
def isBreakOrEnd (c : Char) : Bool := isBreak c || c == endMark

/-- Whether a character is a space or a tab. -/
def isSpaceOrTab (c : Char) : Bool := c == ' ' || c == tab

/-- Whether a character ends a word: a space, a tab, a break or the end of the text. -/
def isGap (c : Char) : Bool := isSpaceOrTab c || isBreakOrEnd c

/-- Whether a character is a space, a break or the end of the text. -/
def isGapButTab (c : Char) : Bool := c == ' ' || isBreakOrEnd c

/-- The rest of a text, the number of characters in it, and the place where it starts. -/
structure Cursor where
  rest : List Char
  left : Nat
  index : Nat := 0
  line : Nat := 0
  column : Nat := 0
  /-- Whether the text goes on after the rest, but cannot be read there. -/
  cut : Bool := false

namespace Cursor

/-- The beginning of a text. -/
def ofChars (cs : List Char) (cut : Bool) : Cursor := { rest := cs, left := cs.length, cut }

/-- The character at a distance, or the end mark. -/
def peek (c : Cursor) (k : Nat) : Char := c.rest.getD k endMark

/-- The next character, or the end mark. -/
def here (c : Cursor) : Char := c.peek 0

/-- Whether the text ends here. -/
def atEnd (c : Cursor) : Bool := c.rest.isEmpty

/-- Whether the text goes on here, but cannot be read. -/
def isLost (c : Cursor) : Bool := c.cut && c.atEnd

/-- The place after the next character. -/
def next (c : Cursor) : Cursor :=
  match c.rest with
  | [] => c
  | ch :: rest =>
    let c := { c with rest, left := c.left - 1, index := c.index + 1 }
    if isBreak ch && !(ch == carriageReturn && rest.head? == some lineFeed) then
      { c with line := c.line + 1, column := 0 }
    else if ch == byteOrderMark then c
    else { c with column := c.column + 1 }

/-- The place after some more characters. -/
def forward (c : Cursor) : Nat → Cursor
  | 0 => c
  | n + 1 => c.next.forward n

/-- The characters from here on that have a property, and the place after them. -/
def span (p : Char → Bool) (c : Cursor) : List Char × Cursor :=
  let run := c.rest.takeWhile p
  (run, c.forward run.length)

/-- The place after the characters from here on that have a property. -/
def skip (p : Char → Bool) (c : Cursor) : Cursor := (c.span p).2

/-- The place after spaces. -/
def skipSpaces (c : Cursor) : Cursor := c.skip (· == ' ')

/-- The place before the next break, if a comment starts here. -/
def skipComment (c : Cursor) : Cursor :=
  if c.here == '#' then c.skip fun ch => !isBreakOrEnd ch else c

/-- The break that stands here, as a line feed unless it is kept, and the place after it. -/
def lineBreak? (c : Cursor) : Option (Char × Cursor) :=
  if isBreak c.here then
    if c.here == carriageReturn && c.peek 1 == lineFeed then some (lineFeed, c.forward 2)
    else some (if isKeptBreak c.here then c.here else lineFeed, c.next)
  else none

/-- The place after the break that stands here, if there is one. -/
def skipBreak (c : Cursor) : Cursor := (c.lineBreak?.map (·.2)).getD c

/-- Whether three equal characters and a gap stand here. -/
def threeOf (c : Cursor) (ch : Char) : Bool :=
  c.peek 0 == ch && c.peek 1 == ch && c.peek 2 == ch && isGap (c.peek 3)

/-- Whether the mark between documents stands here. -/
def atSeparator (c : Cursor) : Bool := c.threeOf '-' || c.threeOf '.'

/-- A bound on the number of steps that move this cursor on. -/
def fuel (c : Cursor) : Nat := c.left + 1

end Cursor
end Yaml
end Chip8
