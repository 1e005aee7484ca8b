import Turnstile.Json.Basic

/-!
The smallest parts of JSON text: white space, words, numbers and strings. Every reader takes the
characters that are left and gives what it read with what is left after it.
-/

namespace Turnstile.Json

/-- Why JSON text cannot be used: it is no JSON, or it is not of the form asked for. -/
inductive ReadError where
  | malformed
  | mismatch
  deriving DecidableEq, Repr

/-- Readers of a part of JSON text. -/
abbrev Reader (α : Type) := List Char → Except ReadError (α × List Char)

def isSpace (c : Char) : Bool := c = ' ' || c = '\n' || c = '\r' || c = '\t'

def skipSpace (cs : List Char) : List Char := cs.dropWhile isSpace

/-- Read exactly the given word. -/
def readWord (word : List Char) : Reader Unit := fun cs =>
  if word.isPrefixOf cs then .ok ((), cs.drop word.length) else .error .malformed

def hexValue? (c : Char) : Option Nat :=
  if '0' ≤ c ∧ c ≤ '9' then some (c.toNat - 48)
  else if 'a' ≤ c ∧ c ≤ 'f' then some (c.toNat - 87)
  else if 'A' ≤ c ∧ c ≤ 'F' then some (c.toNat - 55)
  else none

/-- Escapes of one letter. -/
def plainEscape? : Char → Option Char
  | '"' => some '"'
  | '\\' => some '\\'
  | '/' => some '/'
  | 'b' => some (Char.ofNat 8)
  | 'f' => some (Char.ofNat 12)
  | 'n' => some '\n'
  | 'r' => some '\r'
  | 't' => some '\t'
  | _ => none

def isHighUnit (n : Nat) : Bool := 0xD800 ≤ n && n ≤ 0xDBFF

def isLowUnit (n : Nat) : Bool := 0xDC00 ≤ n && n ≤ 0xDFFF

/-- Where a string is being read: between characters, after a backslash, or inside an escape with that
many digits to come and that value so far. -/
inductive StringPlace where
  | between
  | escape
  | digits (left value : Nat)
  deriving DecidableEq

/-- The character for a unit of an escape, given the first half of a pair if one was read before: what
is kept of the string, and the first half that waits now. With `skip`, halves without the other half
are dropped. -/
def pushUnit (skip : Bool) (before : List Char) (high : Option Nat) (n : Nat) :
    Option (List Char × Option Nat) :=
  match high with
  | some h =>
    if isLowUnit n then
      some (Char.ofNat (0x10000 + (h - 0xD800) * 1024 + (n - 0xDC00)) :: before, none)
    else if !skip then none
    else if isHighUnit n then some (before, some n)
    else some (Char.ofNat n :: before, none)
  | none =>
    if isHighUnit n then some (before, some n)
    else if isLowUnit n then if skip then some (before, none) else none
    else some (Char.ofNat n :: before, none)

/-- The rest of a string up to its closing quotation mark. `before` is what has been read, the latest
first, and `high` the first half of a pair whose other half has to follow. -/
def readStringAt (skip : Bool) (before : List Char) (high : Option Nat) :
    StringPlace → Reader String
  | _, [] => .error .malformed
  | .between, c :: rest =>
    if c = '\\' then readStringAt skip before high .escape rest
    else if high.isSome && !skip then .error .malformed
    else if c = '"' then .ok (String.ofList before.reverse, rest)
    else if c.toNat < 32 then .error .malformed
    else readStringAt skip (c :: before) none .between rest
  | .escape, c :: rest =>
    if c = 'u' then readStringAt skip before high (.digits 4 0) rest
    else
      match plainEscape? c with
      | some d =>
        if high.isSome && !skip then .error .malformed
        else readStringAt skip (d :: before) none .between rest
      | none => .error .malformed
  | .digits left value, c :: rest =>
    match hexValue? c with
    | none => .error .malformed
    | some v =>
      if left ≤ 1 then
        match pushUnit skip before high (value * 16 + v) with
        | some (before, high) => readStringAt skip before high .between rest
        | none => .error .malformed
      else readStringAt skip before high (.digits (left - 1) (value * 16 + v)) rest

/-- The rest of a string after its opening quotation mark. With `skip` half of a pair of escapes may
stand alone, as in a string that nobody is going to use. -/
def readStringFrom (skip : Bool) : Reader String := readStringAt skip [] none .between

/-- A string in quotation marks. -/
def readString (skip : Bool) : Reader String
  | '"' :: rest => readStringFrom skip rest
  | _ => .error .malformed

/-- Some digits, at least one. -/
def readDigits (cs : List Char) : Except ReadError (List Char × List Char) :=
  let digits := cs.takeWhile Char.isDigit
  if digits.isEmpty then .error .malformed else .ok (digits, cs.drop digits.length)

/-- A number as written: its sign, whole part, fraction with the point, and exponent with its letter
and sign. -/
structure NumberText where
  negative : Bool
  whole : List Char
  fraction : List Char
  exponent : List Char

namespace NumberText

/-- Digits make a number. -/
def wholeValue (t : NumberText) : Nat := t.whole.foldl (fun n c => n * 10 + (c.toNat - 48)) 0

def chars (t : NumberText) : List Char :=
  (if t.negative then ['-'] else []) ++ t.whole ++ t.fraction ++ t.exponent

/-- The value of the number: an integer if it is written as one and is not minus zero. -/
def toJson (t : NumberText) : Json :=
  if t.fraction.isEmpty && t.exponent.isEmpty && !(t.negative && t.wholeValue == 0) then
    .int (if t.negative then -(t.wholeValue : Int) else t.wholeValue)
  else .decimal (String.ofList t.chars)

/-- The power of ten of the leading digit, by which numbers too large for a double are told. -/
def magnitude (t : NumberText) : Int :=
  let e := match t.exponent with
    | _ :: '-' :: ds => -(ds.foldl (fun n c => n * 10 + (c.toNat - 48)) 0 : Nat)
    | _ :: '+' :: ds => ((ds.foldl (fun n c => n * 10 + (c.toNat - 48)) 0 : Nat) : Int)
    | _ :: ds => ((ds.foldl (fun n c => n * 10 + (c.toNat - 48)) 0 : Nat) : Int)
    | [] => 0
  let whole := t.whole.dropWhile (· = '0')
  if whole.isEmpty then
    let zeros := (t.fraction.drop 1).takeWhile (· = '0')
    if zeros.length + 1 ≥ t.fraction.length then -400 else e - zeros.length - 1
  else e + whole.length - 1

/-- The number is too large for a double. -/
def isTooLarge (t : NumberText) : Bool :=
  if t.magnitude > 308 then true
  else if t.magnitude < 308 then false
  else
    let digits := ((t.whole ++ t.fraction.drop 1).dropWhile (· = '0')).take 17
    let n := digits.foldl (fun n c => n * 10 + (c.toNat - 48)) 0
    n * Nat.pow 10 (17 - digits.length) > 17976931348623158

end NumberText

/-- Whether there is a minus sign, and what follows it. -/
def readSign : List Char → Bool × List Char
  | '-' :: rest => (true, rest)
  | cs => (false, cs)

/-- A fraction with its point, if there is one. -/
def readFraction : Reader (List Char)
  | '.' :: rest => do
    let (ds, rest) ← readDigits rest
    return ('.' :: ds, rest)
  | cs => .ok ([], cs)

/-- An exponent with its letter and sign, if there is one. -/
def readExponent : Reader (List Char)
  | e :: rest =>
    if e = 'e' || e = 'E' then
      match rest with
      | s :: more =>
        if s = '+' || s = '-' then do
          let (ds, rest) ← readDigits more
          return (e :: s :: ds, rest)
        else do
          let (ds, rest) ← readDigits rest
          return (e :: ds, rest)
      | [] => .error .malformed
    else .ok ([], e :: rest)
  | [] => .ok ([], [])

/-- A number. Its whole part has no leading zero unless it is zero. -/
def readNumber : Reader NumberText := fun cs => do
  let (negative, cs) := readSign cs
  let (whole, cs) ← readDigits cs
  if whole.head? == some '0' && whole.length > 1 then throw .malformed
  let (fraction, cs) ← readFraction cs
  let (exponent, cs) ← readExponent cs
  return (⟨negative, whole, fraction, exponent⟩, cs)

end Turnstile.Json
