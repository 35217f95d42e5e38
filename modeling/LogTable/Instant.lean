/-!
# Instants

Points of time on the proleptic Gregorian calendar in UTC, counted in nanoseconds from
1970-01-01T00:00:00.  An `Instant` is any such count; the calendar in use covers the instants from
`Instant.earliest` to `Instant.latest`.  Tables keep instants in whole microseconds
(`Instant.micros`), and `Civil` is the calendar reading of such a count.
-/

namespace LogTable

/-- A point of time, in nanoseconds from 1970-01-01T00:00:00 UTC. -/
structure Instant where
  nanos : Int
  deriving DecidableEq, Repr

namespace Instant

/-- The length of a day in nanoseconds. -/
def nanosPerDay : Int := 86400000000000

/-- The instant that lies `nanos` nanoseconds after `seconds` whole seconds.  A leap second is the
plain sum. -/
def ofParts (seconds : Int) (nanos : Nat) : Instant where
  nanos := seconds * 1000000000 + nanos

/-- The first instant of the calendar, the start of the year -262143. -/
def earliest : Instant := ofParts (-8334601228800) 0

/-- The last instant of the calendar, the end of the year 262142. -/
def latest : Instant := ofParts 8210266876799 999999999

/-- Whole microseconds since 1970, rounded down. -/
def micros (t : Instant) : Int :=
  t.nanos / 1000

/-- The instant `days` days before `t`, unless the calendar starts later. -/
def daysBefore? (t : Instant) (days : Nat) : Option Instant :=
  let nanos := t.nanos - days * nanosPerDay
  if earliest.nanos ≤ nanos then some ⟨nanos⟩ else none

end Instant

/-- A calendar date with a time of day in microseconds. -/
structure Civil where
  year : Int
  month : Nat
  day : Nat
  /-- Microseconds since midnight. -/
  microOfDay : Nat
  deriving DecidableEq, Repr

namespace Civil

/-- The length of a day in microseconds. -/
def microsPerDay : Int := 86400000000

/-- The number of days from 1970-01-01 to a date of the proleptic Gregorian calendar.  The year is
taken to start in March, so that the leap day is its last day. -/
def dayNumber (year : Int) (month day : Nat) : Int :=
  let y := if month ≤ 2 then year - 1 else year
  let era := y / 400
  let yearOfEra := y - era * 400
  let marchMonth : Int := if 2 < month then month - 3 else month + 9
  let dayOfYear := (153 * marchMonth + 2) / 5 + day - 1
  let dayOfEra := yearOfEra * 365 + yearOfEra / 4 - yearOfEra / 100 + dayOfYear
  era * 146097 + dayOfEra - 719468

/-- The date and time of day of a count of microseconds since 1970. -/
def ofMicros (micros : Int) : Civil :=
  let days := micros / microsPerDay
  let z := days + 719468
  let era := z / 146097
  let dayOfEra := z - era * 146097
  let yearOfEra := (dayOfEra - dayOfEra / 1460 + dayOfEra / 36524 - dayOfEra / 146096) / 365
  let dayOfYear := dayOfEra - (365 * yearOfEra + yearOfEra / 4 - yearOfEra / 100)
  let marchMonth := (5 * dayOfYear + 2) / 153
  let day := dayOfYear - (153 * marchMonth + 2) / 5 + 1
  let month := if marchMonth < 10 then marchMonth + 3 else marchMonth - 9
  let year := yearOfEra + era * 400 + (if month ≤ 2 then 1 else 0)
  { year, month := month.toNat, day := day.toNat, microOfDay := (micros % microsPerDay).toNat }

/-- A number in decimal, filled up with zeros to at least `width` digits. -/
def padded (width n : Nat) : String :=
  let digits := toString n
  String.ofList (List.replicate (width - digits.length) '0') ++ digits

/-- A year has at least four digits, and a sign when it is negative or has more than four. -/
def yearText (year : Int) : String :=
  if year < 0 then "-" ++ padded 4 year.natAbs
  else if 9999 < year then "+" ++ toString year
  else padded 4 year.natAbs

/-- The date as `YYYY-MM-DD`. -/
def dateText (c : Civil) : String :=
  s!"{yearText c.year}-{padded 2 c.month}-{padded 2 c.day}"

/-- The time of day as `HH:MM:SS`. -/
def clockText (c : Civil) : String :=
  let seconds := c.microOfDay / 1000000
  s!"{padded 2 (seconds / 3600)}:{padded 2 (seconds / 60 % 60)}:{padded 2 (seconds % 60)}"

/-- The digits of the microseconds within the second, always six. -/
def fractionText (c : Civil) : String :=
  padded 6 (c.microOfDay % 1000000)

/-- The number of days of a month. -/
def daysInMonth (year : Int) (month : Nat) : Nat :=
  if month == 2 then
    if year % 4 == 0 && (year % 100 != 0 || year % 400 == 0) then 29 else 28
  else if month == 4 || month == 6 || month == 9 || month == 11 then 30
  else 31

/-- The microseconds since 1970 of a date at midnight, if there is such a date. -/
def midnight? (year : Int) (month day : Nat) : Option Int :=
  if 1 ≤ month ∧ month ≤ 12 ∧ 1 ≤ day ∧ day ≤ daysInMonth year month then
    some (dayNumber year month day * microsPerDay)
  else none

end Civil

end LogTable
