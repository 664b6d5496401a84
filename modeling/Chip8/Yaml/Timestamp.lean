/-
# Dates and times in documents

A date is a year of four digits, a month and a day with hyphens between them.  A
time may follow after a `T` or blanks: hour, minute and second with colons, a
fraction, and an offset from universal time as `Z` or with a sign.
-/

import Chip8.Calendar
import Chip8.Number.Numeral

namespace Chip8
namespace Yaml

/-- The time of a timestamp as it is written. -/
structure Timestamp.Clock where
  hour : Nat
  minute : Nat
  second : Nat
  /-- The digits after the point. -/
  fraction : List Char
  /-- Minutes ahead of universal time. -/
  offset : Option Int

/-- A date as it is written, with a time if there is one; its numbers are not checked. -/
structure Timestamp where
  year : Nat
  month : Nat
  day : Nat
  clock : Option Timestamp.Clock

namespace Timestamp

/-- A number of at least and at most so many digits. -/
def number? (least most : Nat) (cs : List Char) : Option (Nat × List Char) :=
  let ds := (cs.take most).takeWhile Numeral.isDigit
  if ds.length < least then none else some (Numeral.ofDigits 10 ds, cs.drop ds.length)

/-- The characters after a sign. -/
def after? (sign : Char) : List Char → Option (List Char)
  | [] => none
  | c :: rest => if c = sign then some rest else none

/-- Whether a character is a space or a tab. -/
def isBlank (c : Char) : Bool := c == ' ' || c == Char.ofNat 9

/-- The characters after the sign or the blanks between date and time. -/
def toClock? (cs : List Char) : Option (List Char) :=
  match cs with
  | [] => none
  | c :: rest =>
    if c = 'T' ∨ c = 't' then some rest
    else if isBlank c then some (rest.dropWhile isBlank)
    else none

/-- An offset from universal time, up to the end. -/
def offset? (cs : List Char) : Option Int :=
  match cs with
  | ['Z'] => some 0
  | sign :: rest =>
    if sign = '+' ∨ sign = '-' then do
      let (hours, cs) ← number? 1 2 rest
      let minutes ← if cs.isEmpty then some 0 else do
        let (minutes, cs) ← number? 2 2 (← after? ':' cs)
        if cs.isEmpty then some minutes else none
      return Numeral.signed (sign == '-') (hours * 60 + minutes)
    else none
  | [] => none

/-- A time of day with its offset, up to the end. -/
def clock? (cs : List Char) : Option Clock := do
  let (hour, cs) ← number? 1 2 cs
  let (minute, cs) ← number? 2 2 (← after? ':' cs)
  let (second, cs) ← number? 2 2 (← after? ':' cs)
  let (fraction, cs) := match cs with
    | '.' :: rest => (rest.takeWhile Numeral.isDigit, rest.dropWhile Numeral.isDigit)
    | _ => ([], cs)
  if cs.isEmpty then return ⟨hour, minute, second, fraction, none⟩
  else return ⟨hour, minute, second, fraction, some (← offset? (cs.dropWhile isBlank))⟩

/-- Reads a date or a date with a time. -/
def ofChars? (cs : List Char) : Option Timestamp := do
  let (year, cs) ← number? 4 4 cs
  let (month, cs) ← number? 1 2 (← after? '-' cs)
  let (day, cs) ← number? 1 2 (← after? '-' cs)
  if cs.isEmpty then return ⟨year, month, day, none⟩
  else return ⟨year, month, day, some (← clock? (← toClock? cs))⟩

/-- Whether a plain scalar is a timestamp: a date on its own needs two digits for month and
day. -/
def isPlain (cs : List Char) : Bool :=
  match ofChars? cs with
  | none => false
  | some t => t.clock.isSome || cs.length == 10

/-- The microseconds of a fraction, whose further digits are dropped. -/
def microsecond (fraction : List Char) : Nat :=
  let ds := fraction.take 6
  Numeral.ofDigits 10 ds * Nat.pow 10 (6 - ds.length)

/-- The moment of a date with a time. -/
def moment (t : Timestamp) (clock : Clock) : Except CalendarError Moment := do
  Moment.checkOffset clock.offset
  let date ← Date.ofNumbers t.year t.month t.day
  let time ← TimeOfDay.ofNumbers clock.hour clock.minute clock.second (microsecond clock.fraction)
  return ⟨date, time, clock.offset⟩

end Timestamp
end Yaml
end Chip8
