import LogTable.Instant
import LogTable.Text.Blank

/-!
# Times in predicates

A predicate writes a time as a text: `Moment.parse?` reads `YYYY-MM-DD`, which is midnight, or such
a date followed by `T` or a blank and a time of day, as `HH:MM:SS` with decimal places perhaps or as
`HHMMSS`, and an optional offset from UTC.  `Moment.render` writes a time back.
-/

namespace LogTable.Predicate.Moment

/-- The number that a list of decimal digits stands for. -/
def number? (digits : List Char) : Option Nat :=
  if digits ≠ [] ∧ digits.all Char.isDigit then
    some (digits.foldl (fun n d => 10 * n + (d.toNat - 48)) 0)
  else none

/-- A number of exactly `width` digits at the front of a text, and the rest. -/
def take? (width : Nat) (cs : List Char) : Option (Nat × List Char) := do
  let front := cs.take width
  if front.length = width then
    let n ← number? front
    return (n, cs.drop width)
  else none

/-- The rest of a text that starts with the character `c`. -/
def skip? (c : Char) : List Char → Option (List Char)
  | d :: rest => if d = c then some rest else none
  | [] => none

/-- The date at the front of a text, as microseconds at its midnight, and the rest. -/
def date? (cs : List Char) : Option (Int × List Char) := do
  let (year, cs) ← take? 4 cs
  let cs ← skip? '-' cs
  let (month, cs) ← take? 2 cs
  let cs ← skip? '-' cs
  let (day, cs) ← take? 2 cs
  let midnight ← Civil.midnight? year month day
  return (midnight, cs)

/-- The decimal places of a second at the front of a text, in microseconds, and the rest.  At least
one digit follows the point; what lies below a nanosecond does not count. -/
def fraction? : List Char → Option (Int × List Char)
  | '.' :: cs => do
    let digits := cs.takeWhile Char.isDigit
    if digits = [] then none
    else
      let nanos ← number? (digits.take 9 ++ List.replicate (9 - digits.length) '0')
      return (nanos / 1000, cs.drop digits.length)
  | cs => some (0, cs)

/-- A time of day in microseconds.  The second 60 is a leap second. -/
def ofClock? (hour minute second : Nat) (fraction : Int) : Option Int :=
  if hour < 24 ∧ minute < 60 ∧ second ≤ 60 then
    some (((hour * 60 + minute) * 60 + second : Nat) * 1000000 + fraction)
  else none

/-- A time of day with colons at the front of a text, in microseconds, and the rest. -/
def colonClock? (cs : List Char) : Option (Int × List Char) := do
  let (hour, cs) ← take? 2 cs
  let cs ← skip? ':' cs
  let (minute, cs) ← take? 2 cs
  let cs ← skip? ':' cs
  let (second, cs) ← take? 2 cs
  let (fraction, cs) ← fraction? cs
  return (← ofClock? hour minute second fraction, cs)

/-- A time of day of six digits at the front of a text, in microseconds, and the rest, neither of
whose first two characters is a digit. -/
def compactClock? (cs : List Char) : Option (Int × List Char) := do
  let (hour, cs) ← take? 2 cs
  let (minute, cs) ← take? 2 cs
  let (second, cs) ← take? 2 cs
  if (cs.take 2).any Char.isDigit then none
  else return (← ofClock? hour minute second 0, cs)

/-- A time of day at the front of a text, in microseconds, and the rest. -/
def clock? (cs : List Char) : Option (Int × List Char) :=
  colonClock? cs <|> compactClock? cs

/-- An offset from UTC as a sign and hours, and minutes perhaps, in minutes. -/
def signedOffset? : List Char → Option Int
  | [] => none
  | sign :: rest => do
    let direction : Int ← if sign = '+' then some 1 else if sign = '-' then some (-1) else none
    let (hours, rest) ← take? 2 rest
    let (minutes, rest) ← match rest with
      | [] => some (0, [])
      | ':' :: rest => take? 2 rest
      | rest => take? 2 rest
    if rest = [] ∧ hours * 60 + minutes < 24 * 60 then
      return direction * (hours * 60 + minutes : Nat)
    else none

/-- An offset from UTC that makes up a whole text, in minutes. -/
def offset? (cs : List Char) : Option Int :=
  if cs = ['Z'] ∨ cs = ['z'] then some 0
  else
    let zone := cs.dropWhile Text.isBlank
    if zone = "UTC".toList then some 0 else signedOffset? zone

/-- The time that a text stands for, in microseconds since 1970. -/
def parse? (text : String) : Option Int := do
  let (midnight, cs) ← date? text.toList
  match cs with
  | [] => return midnight
  | separator :: cs =>
    if separator = 'T' ∨ separator = 't' ∨ separator = ' ' then
      let (clock, cs) ← clock? cs
      if cs = [] then return midnight + clock
      else
        let minutes ← offset? cs
        return midnight + clock - minutes * 60000000
    else none

/-- A time as text: the date and the time of day in UTC, with its decimal places in groups of three
if there are any. -/
def render (micros : Int) : String :=
  let c := Civil.ofMicros micros
  let fraction := c.microOfDay % 1000000
  let places :=
    if fraction = 0 then ""
    else if fraction % 1000 = 0 then "." ++ Civil.padded 3 (fraction / 1000)
    else "." ++ c.fractionText
  c.dateText ++ "T" ++ c.clockText ++ places ++ "Z"

end LogTable.Predicate.Moment
