import Turnstile.Time.Calendar

/-!
Points in time with nanoseconds, and their texts: the internet format with `T` and `Z`, and the format
with a space that people read. Times outside the calendar's range do not exist; arithmetic that would
leave the range is a fault.
-/

namespace Turnstile

/-- A point in time in UTC, by nanoseconds since 1970-01-01. `leap` marks a point in a leap second,
which is written as second 60; it is counted like the second that follows. -/
structure Instant where
  nanos : Int
  leap : Bool := false
  deriving DecidableEq, Repr, Inhabited

namespace Instant

def nanosPerSecond : Int := 1000000000

/-- Whole seconds since 1970-01-01, rounded down. -/
def seconds (t : Instant) : Int := t.nanos / nanosPerSecond

def ofSeconds (s : Int) : Instant := { nanos := s * nanosPerSecond }

/-- The first instant of the calendar, in year -262143. -/
def first : Instant := ofSeconds ((Date.mk (-262143) 1 1).dayNumber * 86400)

/-- The last instant of the calendar, at the end of year 262142. -/
def last : Instant :=
  { nanos := ((Date.mk 262142 12 31).dayNumber * 86400 + 86400) * nanosPerSecond - 1 }

/-- The longest span of time in seconds that is ever counted, in both directions. -/
def maxSpanSeconds : Int := 9223372036854775

/-- The instant so many seconds later, if the span and the result are within range. -/
def addSeconds? (t : Instant) (s : Int) : Option Instant :=
  let n := t.nanos + s * nanosPerSecond
  if -maxSpanSeconds ≤ s ∧ s ≤ maxSpanSeconds ∧ first.nanos ≤ n ∧ n ≤ last.nanos then
    some { nanos := n }
  else none

/-- Whole seconds from `u` to `t`, rounded toward zero. -/
def secondsSince (t u : Instant) : Int := (t.nanos - u.nanos).tdiv nanosPerSecond

/-- `u` comes after `t`. -/
def before (t u : Instant) : Bool := t.nanos < u.nanos

/-! ### Writing -/

/-- Decimal digits, filled up with zeros on the left. -/
def padded (width n : Nat) : String :=
  let digits := Nat.toDigits 10 n
  String.ofList (List.replicate (width - digits.length) '0' ++ digits)

/-- Four digits; years outside 0 to 9999 carry their sign. -/
def yearText (y : Int) : String :=
  if 0 ≤ y ∧ y ≤ 9999 then padded 4 y.toNat
  else (if y < 0 then "-" else "+") ++ padded 4 y.natAbs

/-- The fraction of a second in 3, 6 or 9 digits, whichever is the shortest that is exact. -/
def fractionText (n : Nat) : String :=
  if n = 0 then ""
  else if n % 1000000 = 0 then "." ++ padded 3 (n / 1000000)
  else if n % 1000 = 0 then "." ++ padded 6 (n / 1000)
  else "." ++ padded 9 n

/-- The second of the day that is written, the date, and the fraction in nanoseconds. A leap second is
the last second of its minute, counted once more. -/
def parts (t : Instant) : Date × Nat × Nat :=
  let s := if t.leap then t.seconds - 1 else t.seconds
  (Date.ofDayNumber (s / 86400), (s % 86400).toNat, (t.nanos % nanosPerSecond).toNat)

def dateText (d : Date) : String :=
  yearText d.year ++ "-" ++ padded 2 d.month ++ "-" ++ padded 2 d.day

/-- Hours, minutes and seconds. -/
def timeText (secondOfDay : Nat) (leap : Bool) : String :=
  padded 2 (secondOfDay / 3600) ++ ":" ++ padded 2 (secondOfDay / 60 % 60) ++ ":" ++
    padded 2 (secondOfDay % 60 + (if leap then 1 else 0))

/-- The internet format: `2023-11-14T22:13:20.500Z`. -/
def toText (t : Instant) : String :=
  let (d, s, n) := t.parts
  dateText d ++ "T" ++ timeText s t.leap ++ fractionText n ++ "Z"

/-- The format for people, with the fraction: `2023-11-14 22:13:20.500 UTC`. -/
def toSpacedText (t : Instant) : String :=
  let (d, s, n) := t.parts
  dateText d ++ " " ++ timeText s t.leap ++ fractionText n ++ " UTC"

/-- The format for people, to the second. -/
def toSecondsText (t : Instant) : String :=
  let (d, s, _) := t.parts
  dateText d ++ " " ++ timeText s t.leap ++ " UTC"

end Instant

end Turnstile
