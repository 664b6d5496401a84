/-
# Dates and times

Days of the calendar from the year 1 to the year 9999, times of day to the
microsecond, and offsets from universal time of less than a day.  A document may
hold such values; they are checked when they are read and shown again in text.
-/

namespace Chip8

/-- A day. -/
structure Date where
  year : Nat
  month : Nat
  day : Nat
  deriving DecidableEq, Repr

/-- A time of day. -/
structure TimeOfDay where
  hour : Nat
  minute : Nat
  second : Nat
  microsecond : Nat
  deriving DecidableEq, Repr

/-- A moment, with the minutes that its clock is ahead of universal time, if that is known. -/
structure Moment where
  date : Date
  time : TimeOfDay
  offset : Option Int
  deriving DecidableEq, Repr

/-- Why numbers are no date or time. -/
inductive CalendarError where
  | year (n : Nat)
  | month
  | day
  | hour
  | minute
  | second
  /-- The offset, in minutes, is a day or more. -/
  | offset (minutes : Int)
  deriving DecidableEq, Repr

namespace Calendar

/-- Zeros in front of a number up to a width. -/
def padded (width n : Nat) : String :=
  let ds := toString n
  String.ofList (List.replicate (width - ds.length) '0') ++ ds

/-- A span of minutes as days and seconds, the seconds not negative. -/
def spanText (minutes : Int) : String :=
  let days := minutes / 1440
  let seconds := minutes % 1440 * 60
  let parts := (if days ≠ 0 then [s!"days={days}"] else []) ++
    (if seconds ≠ 0 then [s!"seconds={seconds}"] else [])
  "datetime.timedelta(" ++ (if parts.isEmpty then "0" else ", ".intercalate parts) ++ ")"

/-- Whether a year has a 29th of February. -/
def isLeap (year : Nat) : Bool := year % 4 = 0 && (year % 100 ≠ 0 || year % 400 = 0)

/-- The number of days of a month. -/
def monthLength (year month : Nat) : Nat :=
  match month with
  | 2 => if isLeap year then 29 else 28
  | 4 | 6 | 9 | 11 => 30
  | _ => 31

end Calendar

/-- The wording of a refusal. -/
def CalendarError.message : CalendarError → String
  | .year n => s!"year {n} is out of range"
  | .month => "month must be in 1..12"
  | .day => "day is out of range for month"
  | .hour => "hour must be in 0..23"
  | .minute => "minute must be in 0..59"
  | .second => "second must be in 0..59"
  | .offset minutes =>
    "offset must be a timedelta strictly between -timedelta(hours=24) " ++
      s!"and timedelta(hours=24), not {Calendar.spanText minutes}."

namespace Date

/-- The day of three numbers, if there is such a day. -/
def ofNumbers (year month day : Nat) : Except CalendarError Date :=
  if year < 1 ∨ 9999 < year then .error (.year year)
  else if month < 1 ∨ 12 < month then .error .month
  else if day < 1 ∨ Calendar.monthLength year month < day then .error .day
  else .ok ⟨year, month, day⟩

/-- Days since the first day of the year 1. -/
def number (d : Date) : Nat :=
  let y := d.year - 1
  let months := (List.range (d.month - 1)).map fun k => Calendar.monthLength d.year (k + 1)
  y * 365 + y / 4 - y / 100 + y / 400 + months.foldl (· + ·) 0 + (d.day - 1)

/-- Year, month and day with hyphens. -/
def text (d : Date) : String :=
  s!"{Calendar.padded 4 d.year}-{Calendar.padded 2 d.month}-{Calendar.padded 2 d.day}"

/-- The form that a day has inside a list or a mapping. -/
def inner (d : Date) : String := s!"datetime.date({d.year}, {d.month}, {d.day})"

end Date

namespace TimeOfDay

/-- The time of four numbers, if there is such a time. -/
def ofNumbers (hour minute second microsecond : Nat) : Except CalendarError TimeOfDay :=
  if 23 < hour then .error .hour
  else if 59 < minute then .error .minute
  else if 59 < second then .error .second
  else .ok ⟨hour, minute, second, microsecond⟩

/-- Microseconds since midnight. -/
def number (t : TimeOfDay) : Nat :=
  ((t.hour * 60 + t.minute) * 60 + t.second) * 1000000 + t.microsecond

/-- Hours, minutes and seconds with colons, and the fraction if there is one. -/
def text (t : TimeOfDay) : String :=
  s!"{Calendar.padded 2 t.hour}:{Calendar.padded 2 t.minute}:{Calendar.padded 2 t.second}" ++
    (if t.microsecond = 0 then "" else "." ++ Calendar.padded 6 t.microsecond)

end TimeOfDay

namespace Moment

/-- Refuses an offset of a day or more, in minutes. -/
def checkOffset (offset : Option Int) : Except CalendarError Unit :=
  match offset with
  | some minutes =>
    if minutes ≤ -1440 ∨ 1440 ≤ minutes then .error (.offset minutes) else .ok ()
  | none => .ok ()

/-- Microseconds since the start of the year 1, in universal time if the offset is known. -/
def number (m : Moment) : Int :=
  (m.date.number * 86400000000 + m.time.number : Nat) - m.offset.getD 0 * 60000000

/-- An offset as a sign, hours and minutes. -/
def offsetText (minutes : Int) : String :=
  let n := minutes.natAbs
  (if minutes < 0 then "-" else "+") ++
    s!"{Calendar.padded 2 (n / 60)}:{Calendar.padded 2 (n % 60)}"

/-- Day, time and offset. -/
def text (m : Moment) : String :=
  s!"{m.date.text} {m.time.text}" ++ ((m.offset.map offsetText).getD "")

/-- The zone of an offset inside a list or a mapping. -/
def zoneInner (minutes : Int) : String :=
  if minutes = 0 then "datetime.timezone.utc"
  else s!"datetime.timezone({Calendar.spanText minutes})"

/-- The form that a moment has inside a list or a mapping: the seconds are left out if they and
the fraction are zero. -/
def inner (m : Moment) : String :=
  let t := m.time
  let small :=
    if t.microsecond ≠ 0 then [t.second, t.microsecond]
    else if t.second ≠ 0 then [t.second] else []
  let numbers := [m.date.year, m.date.month, m.date.day, t.hour, t.minute] ++ small
  let zone := match m.offset with
    | none => ""
    | some minutes => ", tzinfo=" ++ zoneInner minutes
  "datetime.datetime(" ++ ", ".intercalate (numbers.map fun n => toString n) ++ zone ++ ")"

end Moment
end Chip8
