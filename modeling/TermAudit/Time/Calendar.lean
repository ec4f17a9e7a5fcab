import TermAudit.Text.Basic

/-!
# `TermAudit.Time.Calendar`: dates and times of day

A `Date` and a `Timestamp` are days of the Gregorian calendar between the years 1 and 9999, which
`Date.ofParts?` and `Timestamp.ofParts?` check. Each can be written in the order of ISO 8601, and as
the call that would build it, which is how messages show it.
-/

set_option autoImplicit false

namespace TermAudit

/-- A day of the calendar. `ofParts?` makes those that there are, from the year 1 to 9999. -/
structure Date where
  year : Nat
  month : Nat
  day : Nat
deriving DecidableEq

/-- A time of a day, in a zone if one is known. A time with a zone and one without are never the same
moment. -/
structure Timestamp where
  date : Date
  hour : Nat
  minute : Nat
  second : Nat
  microsecond : Nat
  /-- How many minutes the zone is ahead of universal time. -/
  offset : Option Int
deriving DecidableEq

/-- A number in decimal, filled with zeros on the left. -/
def Text.padded (width n : Nat) : Text :=
  let digits := Text.ofNat n
  List.replicate (width - digits.length) (CodePoint.ofChar '0') ++ digits

namespace Date

/-- Whether the year has a 29 February. -/
def isLeap (year : Nat) : Bool :=
  year % 4 == 0 && (year % 100 != 0 || year % 400 == 0)

/-- The number of days of a month. -/
def daysIn (year : Nat) : Nat → Nat
  | 2 => if isLeap year then 29 else 28
  | 4 | 6 | 9 | 11 => 30
  | _ => 31

/-- The day with these numbers, if the calendar has it. -/
def ofParts? (year month day : Nat) : Option Date :=
  if 1 ≤ year ∧ year ≤ 9999 ∧ 1 ≤ month ∧ month ≤ 12 ∧ 1 ≤ day ∧ day ≤ daysIn year month then
    some ⟨year, month, day⟩
  else none

/-- The days from 1 January of the year 1 to the first day of the year. -/
def daysBeforeYear (year : Nat) : Nat :=
  let y := year - 1
  y * 365 + y / 4 - y / 100 + y / 400

/-- The number of the day, counted from 1 January of the year 1. -/
def ordinal (d : Date) : Nat :=
  daysBeforeYear d.year
    + ((List.range (d.month - 1)).map fun m => daysIn d.year (m + 1)).foldr (· + ·) 0
    + d.day

/-- Year, month and day. -/
def iso (d : Date) : Text :=
  Text.joinWith "-" [Text.padded 4 d.year, Text.padded 2 d.month, Text.padded 2 d.day]

/-- The arguments that build the date. -/
def arguments (d : Date) : List Text :=
  [Text.ofNat d.year, Text.ofNat d.month, Text.ofNat d.day]

/-- The date as the call that builds it. -/
def shown (d : Date) : Text :=
  ("datetime.date(" : Text) ++ Text.joinWith ", " d.arguments ++ (")" : Text)

end Date

namespace Timestamp

/-- The time with these numbers, if the calendar and the clock have it. A zone is less than a day
away from universal time. -/
def ofParts? (date : Date) (hour minute second microsecond : Nat) (offset : Option Int) :
    Option Timestamp :=
  let zoneFits := offset.all fun minutes => minutes.natAbs < 24 * 60
  if hour < 24 ∧ minute < 60 ∧ second < 60 ∧ microsecond < 1000000 ∧ zoneFits then
    some ⟨date, hour, minute, second, microsecond, offset⟩
  else none

/-- The microseconds from the beginning of the calendar, on the clock of the zone. -/
def localMicroseconds (t : Timestamp) : Int :=
  (((t.date.ordinal * 24 + t.hour) * 60 + t.minute) * 60 + t.second) * 1000000 + t.microsecond

/-- Whether two times are the same moment. A time without a zone is never the same moment as one
with a zone. -/
def sameMoment (s t : Timestamp) : Bool :=
  match s.offset, t.offset with
  | none, none => s.localMicroseconds == t.localMicroseconds
  | some m, some n =>
    s.localMicroseconds - m * 60000000 == t.localMicroseconds - n * 60000000
  | _, _ => false

/-- The distance from universal time in hours and minutes. -/
def zone (minutes : Int) : Text :=
  (if minutes < 0 then ("-" : Text) else "+") ++ Text.padded 2 (minutes.natAbs / 60)
    ++ (":" : Text) ++ Text.padded 2 (minutes.natAbs % 60)

/-- Date and time with `separator` between them; microseconds are left out if there are none. -/
def isoWith (separator : Text) (t : Timestamp) : Text :=
  t.date.iso ++ separator
    ++ Text.joinWith ":" [Text.padded 2 t.hour, Text.padded 2 t.minute, Text.padded 2 t.second]
    ++ (if t.microsecond = 0 then [] else ("." : Text) ++ Text.padded 6 t.microsecond)
    ++ (match t.offset with
        | some minutes => zone minutes
        | none => [])

/-- A zone as the call that builds it. A zone behind universal time is a negative day and a
positive number of seconds. -/
def shownZone (minutes : Int) : Text :=
  if minutes = 0 then "datetime.timezone.utc"
  else
    let days : Text := if minutes < 0 then "days=-1, " else ""
    let seconds := (minutes % (24 * 60) * 60).toNat
    ("datetime.timezone(datetime.timedelta(" : Text) ++ days ++ ("seconds=" : Text)
      ++ Text.ofNat seconds ++ ("))" : Text)

/-- The time as the call that builds it. Seconds and microseconds are left out if nothing but
zeros follows. -/
def shown (t : Timestamp) : Text :=
  let clock := [Text.ofNat t.hour, Text.ofNat t.minute]
    ++ (if t.second = 0 ∧ t.microsecond = 0 then [] else [Text.ofNat t.second])
    ++ (if t.microsecond = 0 then [] else [Text.ofNat t.microsecond])
    ++ (match t.offset with
        | some minutes => [("tzinfo=" : Text) ++ shownZone minutes]
        | none => [])
  ("datetime.datetime(" : Text) ++ Text.joinWith ", " (t.date.arguments ++ clock) ++ (")" : Text)

end Timestamp

end TermAudit
