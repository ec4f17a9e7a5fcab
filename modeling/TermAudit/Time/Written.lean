import TermAudit.Time.Calendar

/-!
# `TermAudit.Time.Written`: dates and times as they are written

A `WrittenTime` holds the numbers of a text such as `2001-12-14 21:59:43.10 -5`, as far as its
form goes: month, day and hour may have one digit, the time of day may be left out, and nothing
says yet that the calendar has such a day.
-/

set_option autoImplicit false

namespace TermAudit

/-- A zone as it is written. -/
inductive WrittenZone where
  | universal
  | offset (behind : Bool) (hours minutes : Nat)

/-- A time of day as it is written. -/
structure WrittenClock where
  hour : Nat
  minute : Nat
  second : Nat
  fraction : List Char
  zone : Option WrittenZone

/-- A day, and perhaps a time of day, as they are written. -/
structure WrittenTime where
  year : Nat
  month : Nat
  day : Nat
  clock : Option WrittenClock
  /-- Whether month and day have two digits each. -/
  isFull : Bool

namespace WrittenTime

/-- Takes at least `least` and at most `most` digits: their number, how many there are, and the
rest. -/
def digits? (least most : Nat) (cs : List Char) : Option (Nat × Nat × List Char) :=
  let taken := (cs.take most).takeWhile Char.isDigit
  if taken.length < least then none
  else
    some (taken.foldl (fun n c => 10 * n + (c.toNat - '0'.toNat)) 0, taken.length,
      cs.drop taken.length)

/-- Takes the character `c`. -/
def char? (c : Char) : List Char → Option (List Char)
  | [] => none
  | d :: rest => if d == c then some rest else none

/-- Whether the character is a space or a tab. -/
def isBlank (c : Char) : Bool :=
  c == ' ' || c == '\t'

/-- The zone at the end of a time of day: nothing, `Z`, or a sign, hours and perhaps minutes. -/
def zone? (cs : List Char) : Option (Option WrittenZone) :=
  match cs with
  | [] => some none
  | _ =>
    match cs.dropWhile isBlank with
    | ['Z'] => some (some .universal)
    | sign :: rest =>
      if sign == '+' || sign == '-' then do
        let (hours, _, rest) ← digits? 1 2 rest
        match rest with
        | [] => return some (.offset (sign == '-') hours 0)
        | _ =>
          let (minutes, _, rest) ← char? ':' rest >>= digits? 2 2
          if rest.isEmpty then return some (.offset (sign == '-') hours minutes) else none
      else none
    | [] => none

/-- A time of day up to the end. -/
def clock? (cs : List Char) : Option WrittenClock := do
  let (hour, _, cs) ← digits? 1 2 cs
  let (minute, _, cs) ← char? ':' cs >>= digits? 2 2
  let (second, _, cs) ← char? ':' cs >>= digits? 2 2
  let (fraction, cs) :=
    match cs with
    | '.' :: rest => rest.span Char.isDigit
    | _ => ([], cs)
  return ⟨hour, minute, second, fraction, ← zone? cs⟩

/-- A day, and perhaps a time of day behind a `T` or blanks. -/
def ofChars? (cs : List Char) : Option WrittenTime := do
  let (year, _, cs) ← digits? 4 4 cs
  let (month, monthDigits, cs) ← char? '-' cs >>= digits? 1 2
  let (day, dayDigits, cs) ← char? '-' cs >>= digits? 1 2
  let isFull := monthDigits == 2 && dayDigits == 2
  match cs with
  | [] => return ⟨year, month, day, none, isFull⟩
  | c :: rest =>
    if c == 'T' || c == 't' then return ⟨year, month, day, some (← clock? rest), isFull⟩
    else if isBlank c then
      return ⟨year, month, day, some (← clock? (rest.dropWhile isBlank)), isFull⟩
    else none

/-- The microseconds that the digits of a fraction of a second denote; those after the sixth do
not count. -/
def microseconds (fraction : List Char) : Nat :=
  let digits := fraction.take 6
  digits.foldl (fun n c => 10 * n + (c.toNat - '0'.toNat)) 0 * Nat.pow 10 (6 - digits.length)

/-- How many minutes a zone is ahead of universal time. -/
def zoneMinutes : WrittenZone → Int
  | .universal => 0
  | .offset behind hours minutes =>
    let total : Int := hours * 60 + minutes
    if behind then -total else total

/-- The day that is written, if the calendar has it. -/
def date? (w : WrittenTime) : Option Date :=
  Date.ofParts? w.year w.month w.day

/-- The time that is written, if calendar and clock have it. -/
def timestamp? (w : WrittenTime) (clock : WrittenClock) : Option Timestamp := do
  let date ← w.date?
  Timestamp.ofParts? date clock.hour clock.minute clock.second (microseconds clock.fraction)
    (clock.zone.map zoneMinutes)

end WrittenTime

end TermAudit
