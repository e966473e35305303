import Gateway.Text.Decimal

/-! Instants, and their texts in the Gregorian calendar as clocks show them at some place. -/
namespace Gateway

/-- A day of the Gregorian calendar, extended to all years; the year before 1 is 0. -/
structure Date where
  year : Int
  month : Nat
  day : Nat
  deriving Repr, DecidableEq

namespace Date

/-- Days in four hundred years. -/
def daysPerCycle : Int := 146097

/-- Days from the first of March of the year 0 to the first of January 1970. -/
def daysToEpoch : Int := 719468

/-- The day that lies `days` after the first of January 1970. Years are counted from March on, so
that a leap day ends its year. -/
def ofDays (days : Int) : Date :=
  let z := days + daysToEpoch
  let n := (z % daysPerCycle).toNat
  let year := (n - n / 1460 + n / 36524 - n / 146096) / 365
  let dayOfYear := n - (365 * year + year / 4 - year / 100)
  let fromMarch := (5 * dayOfYear + 2) / 153
  let month := if fromMarch < 10 then fromMarch + 3 else fromMarch - 9
  { year := z / daysPerCycle * 400 + year + (if month ≤ 2 then 1 else 0)
    month, day := dayOfYear - (153 * fromMarch + 2) / 5 + 1 }

/-- Years of four digits stand alone; all others have a sign. -/
def yearText (year : Int) : String :=
  if 0 ≤ year ∧ year ≤ 9999 then Text.padded 4 year.toNat
  else (if year < 0 then "-" else "+") ++ Text.padded 4 year.natAbs

def monthNames : List String :=
  ["Jan", "Feb", "Mar", "Apr", "May", "Jun", "Jul", "Aug", "Sep", "Oct", "Nov", "Dec"]

end Date

/-- Seconds since the first of January 1970 and nanoseconds in that second. A second followed by a
leap second has nanoseconds of a billion and more. -/
structure Instant where
  seconds : Int
  nanos : Nat := 0
  /-- Seconds by which the clocks are ahead of Universal Time. -/
  offset : Int := 0
  deriving Repr, DecidableEq

namespace Instant

/-- The instant with clocks that show Universal Time. -/
def utc (t : Instant) : Instant := { t with offset := 0 }

def date (t : Instant) : Date := .ofDays ((t.seconds + t.offset) / 86400)

/-- The offset in hours and minutes, to the nearest minute. -/
def offsetText (t : Instant) (colon : String) : String :=
  let minutes := (t.offset.natAbs + 30) / 60
  (if t.offset < 0 then "-" else "+") ++ Text.padded 2 (minutes / 60) ++ colon ++
    Text.padded 2 (minutes % 60)

def clock (t : Instant) : String :=
  let n := ((t.seconds + t.offset) % 86400).toNat
  Text.padded 2 (n / 3600) ++ ":" ++ Text.padded 2 (n / 60 % 60) ++ ":" ++
    Text.padded 2 (n % 60 + t.nanos / 1000000000)

/-- Day, month and year with slashes, the time and the offset, as access logs have them. -/
def logText (t : Instant) : String :=
  let d := t.date
  Text.padded 2 d.day ++ "/" ++ Date.monthNames.getD (d.month - 1) "" ++ "/" ++
    Date.yearText d.year ++ ":" ++ t.clock ++ " " ++ t.offsetText ""

/-- The fraction of the second in as few of 0, 3, 6 and 9 digits as hold it. -/
def fraction (nanos : Nat) : String :=
  if nanos = 0 then ""
  else if nanos % 1000000 = 0 then "." ++ Text.padded 3 (nanos / 1000000)
  else if nanos % 1000 = 0 then "." ++ Text.padded 6 (nanos / 1000)
  else "." ++ Text.padded 9 nanos

/-- Year, month and day with hyphens, a `T`, the time and the offset. -/
def isoText (t : Instant) : String :=
  let d := t.date
  Date.yearText d.year ++ "-" ++ Text.padded 2 d.month ++ "-" ++ Text.padded 2 d.day ++ "T" ++
    t.clock ++ fraction (t.nanos % 1000000000) ++ t.offsetText ":"

end Instant
end Gateway
