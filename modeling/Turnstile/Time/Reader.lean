import Turnstile.Time.Instant
import Turnstile.Text.Blank

/-!
Reading instants from text. The reader is lenient: fields may lack leading zeros, white space may stand
before a field, a space may stand for the `T`, and any offset from UTC is accepted.
-/

namespace Turnstile.Instant

/-- A decimal number of at least one and at most `width` digits. -/
def readNumber (width : Nat) (cs : List Char) : Option (Nat × List Char) :=
  let digits := (cs.take width).takeWhile Char.isDigit
  if digits.isEmpty then none
  else some (digits.foldl (fun n c => n * 10 + (c.toNat - 48)) 0, cs.drop digits.length)

/-- A field of at most two digits, after white space. -/
def readField (cs : List Char) : Option (Nat × List Char) := readNumber 2 (Text.trimStart cs)

/-- A year: four digits at most, or any number of them after a sign. -/
def readYear (cs : List Char) : Option (Int × List Char) :=
  match Text.trimStart cs with
  | '-' :: rest => (readNumber rest.length rest).map fun (n, rest) => (-(n : Int), rest)
  | '+' :: rest => (readNumber rest.length rest).map fun (n, rest) => ((n : Int), rest)
  | cs => (readNumber 4 cs).map fun (n, rest) => ((n : Int), rest)

/-- The given character, after white space. -/
def readMark (mark : Char) (cs : List Char) : Option (List Char) :=
  match Text.trimStart cs with
  | c :: rest => if c = mark then some rest else none
  | [] => none

def readDate (cs : List Char) : Option (Date × List Char) := do
  let (y, cs) ← readYear cs
  let cs ← readMark '-' cs
  let (m, cs) ← readField cs
  let cs ← readMark '-' cs
  let (d, cs) ← readField cs
  let date : Date := ⟨y, m, d⟩
  if date.isValid then some (date, cs) else none

/-- The fraction of a second in nanoseconds; digits after the ninth are dropped. -/
def readFraction (cs : List Char) : Option (Nat × List Char) :=
  match cs with
  | '.' :: rest => do
    let digits := (rest.take 9).takeWhile Char.isDigit
    let (n, rest) ← readNumber 9 rest
    return (n * Nat.pow 10 (9 - digits.length), rest.dropWhile Char.isDigit)
  | cs => some (0, cs)

/-- The second of the day, whether it is a leap second, and nanoseconds. -/
def readTime (cs : List Char) : Option ((Nat × Bool × Nat) × List Char) := do
  let (h, cs) ← readField cs
  let cs ← readMark ':' cs
  let (m, cs) ← readField cs
  let cs ← readMark ':' cs
  let (s, cs) ← readField cs
  let (n, cs) ← readFraction cs
  if h < 24 ∧ m < 60 ∧ s ≤ 60 then
    some ((h * 3600 + m * 60 + min s 59, s == 60, n), Text.trimStart cs)
  else none

/-- Two digits of an offset. -/
def readTwoDigits : List Char → Option (Nat × List Char)
  | a :: b :: rest =>
    if a.isDigit && b.isDigit then some ((a.toNat - 48) * 10 + (b.toNat - 48), rest) else none
  | _ => none

/-- The offset from UTC in seconds. -/
def readOffset (cs : List Char) : Option (Int × List Char) :=
  let signed := fun (sign : Int) (rest : List Char) => do
    let (h, rest) ← readTwoDigits rest
    let (m, rest) ← readTwoDigits (rest.dropWhile fun c => c = ':' || Text.isBlank c)
    if m < 60 then some (sign * (h * 3600 + m * 60 : Nat), rest) else none
  match cs with
  | 'Z' :: rest | 'z' :: rest => some (0, rest)
  | '+' :: rest => signed 1 rest
  | '-' :: rest | '−' :: rest => signed (-1) rest
  | a :: b :: c :: rest =>
    if a.toLower = 'u' ∧ b.toLower = 't' ∧ c.toLower = 'c' then some (0, rest) else none
  | _ => none

/-- The instant a text denotes. -/
def ofText? (s : String) : Option Instant := do
  let (date, cs) ← readDate s.toList
  let cs ← match cs with
    | 'T' :: cs | 't' :: cs | ' ' :: cs => some cs
    | _ => none
  let ((second, leap, fraction), cs) ← readTime cs
  let (offset, cs) ← readOffset cs
  let base := date.dayNumber * 86400 + second + (if leap then 1 else 0)
  let written : Instant := { nanos := base * nanosPerSecond + fraction }
  let t : Instant := { nanos := (base - offset) * nanosPerSecond + fraction, leap := leap }
  if Text.isBlankText (String.ofList cs) ∧ offset.natAbs < 86400 ∧
      first.nanos ≤ written.nanos ∧ written.nanos ≤ last.nanos ∧
      first.nanos ≤ t.nanos ∧ t.nanos ≤ last.nanos then some t
  else none

end Turnstile.Instant
