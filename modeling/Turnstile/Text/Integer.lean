/-!
Reading integers within bounds from decimal text. A plus sign is allowed, a minus sign only where the
bounds reach below zero. The first fault from the left decides what is reported.
-/

namespace Turnstile.Text

/-- Why a text is no integer within bounds. -/
inductive IntegerError where
  | empty
  | badDigit
  | tooLarge
  | tooSmall
  deriving DecidableEq, Repr

def IntegerError.message : IntegerError → String
  | .empty => "cannot parse integer from empty string"
  | .badDigit => "invalid digit found in string"
  | .tooLarge => "number too large to fit in target type"
  | .tooSmall => "number too small to fit in target type"

/-- Read on with more digits, for a number that is `n` so far. -/
def readDigits (low high : Int) (negative : Bool) (n : Int) :
    List Char → Except IntegerError Int
  | [] => .ok n
  | c :: rest =>
    if !c.isDigit then .error .badDigit
    else
      let digit : Int := c.toNat - 48
      let m := if negative then n * 10 - digit else n * 10 + digit
      if m < low then .error .tooSmall
      else if high < m then .error .tooLarge
      else readDigits low high negative m rest

/-- Read a whole text as an integer between the bounds. -/
def readInteger (low high : Int) (s : String) : Except IntegerError Int :=
  match s.toList with
  | [] => .error .empty
  | ['+'] | ['-'] => .error .badDigit
  | '+' :: rest => readDigits low high false 0 rest
  | '-' :: rest =>
    if low < 0 then readDigits low high true 0 rest else .error .badDigit
  | cs => readDigits low high false 0 cs

def minInt64 : Int := -9223372036854775808
def maxInt64 : Int := 9223372036854775807

/-- Read a whole text as an integer of 64 bits. -/
def readInt64 (s : String) : Except IntegerError Int := readInteger minInt64 maxInt64 s

end Turnstile.Text
