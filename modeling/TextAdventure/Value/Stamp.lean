/-!
# Dates and points in time

The dates and points in time that a document may hold, with their written forms.
-/

namespace TextAdventure

/-- A time of day, with the distance from universal time in minutes if one is given. -/
structure Clock where
  hour : Nat
  minute : Nat
  second : Nat
  microsecond : Nat
  offset : Option Int
  deriving DecidableEq, Repr

/-- A date, or a point in time if a clock is given. -/
structure Stamp where
  year : Nat
  month : Nat
  day : Nat
  clock : Option Clock
  deriving DecidableEq, Repr

namespace Stamp

/-- The number of days of a month. -/
def daysIn (year month : Nat) : Nat :=
  if month = 2 then
    if year % 4 = 0 ∧ (year % 100 ≠ 0 ∨ year % 400 = 0) then 29 else 28
  else if month = 4 ∨ month = 6 ∨ month = 9 ∨ month = 11 then 30
  else 31

/-- Whether the numbers name a day of the calendar and a time of that day. -/
def isValid (s : Stamp) : Bool :=
  1 ≤ s.year && 1 ≤ s.month && s.month ≤ 12 && 1 ≤ s.day && s.day ≤ daysIn s.year s.month &&
    s.clock.all fun c =>
      c.hour < 24 && c.minute < 60 && c.second < 60 && c.offset.all fun m => m.natAbs < 24 * 60

/-- A number with zeros in front of it up to a width. -/
def padded (width n : Nat) : String :=
  let digits := Nat.toDigits 10 n
  String.ofList (List.replicate (width - digits.length) '0' ++ digits)

/-- The written form: `2001-12-14`, or `2001-12-14 21:59:43.100000+01:00`. -/
def toText (s : Stamp) : String :=
  let date := padded 4 s.year ++ "-" ++ padded 2 s.month ++ "-" ++ padded 2 s.day
  match s.clock with
  | none => date
  | some c =>
    let fraction := if c.microsecond = 0 then "" else "." ++ padded 6 c.microsecond
    let offset :=
      match c.offset with
      | none => ""
      | some m =>
        (if m < 0 then "-" else "+") ++ padded 2 (m.natAbs / 60) ++ ":" ++ padded 2 (m.natAbs % 60)
    date ++ " " ++ padded 2 c.hour ++ ":" ++ padded 2 c.minute ++ ":" ++ padded 2 c.second ++
      fraction ++ offset

/-- The number of days before a year, counted from the year one. -/
def daysBeforeYear (year : Nat) : Nat :=
  let y := year - 1
  y * 365 + y / 4 - y / 100 + y / 400

/-- The number of days before a month of a year. -/
def daysBeforeMonth (year month : Nat) : Nat :=
  ((List.range (month - 1)).map fun m => daysIn year (m + 1)).foldl (· + ·) 0

/-- The microseconds that have passed since the beginning of the year one, as the clock on the wall
shows them. -/
def wallTime (s : Stamp) : Int :=
  let days := daysBeforeYear s.year + daysBeforeMonth s.year s.month + s.day
  let seconds (c : Clock) : Nat := ((days * 24 + c.hour) * 60 + c.minute) * 60 + c.second
  match s.clock with
  | none => days * 24 * 3600 * 1000000
  | some c => seconds c * 1000000 + c.microsecond

/-- The distance from universal time, if it is known. -/
def offset? (s : Stamp) : Option Int := s.clock.bind (·.offset)

/-- The microseconds that have passed in universal time; what is not known to be elsewhere counts
as being there. -/
def instant (s : Stamp) : Int := s.wallTime - s.offset?.getD 0 * 60 * 1000000

/-- Whether two dates or two points in time are the same. Points in time with known distances from
universal time are compared there; a date is no point in time. -/
def equals (s t : Stamp) : Bool :=
  s.clock.isSome == t.clock.isSome && s.offset?.isSome == t.offset?.isSome &&
    s.instant == t.instant

end Stamp

end TextAdventure
