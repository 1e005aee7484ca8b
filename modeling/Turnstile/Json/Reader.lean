import Turnstile.Json.Lexeme

/-!
Reading any JSON value. Members with equal names are all kept, in order.
-/

namespace Turnstile.Json

mutual

/-- A value. `skip` is for a value that nobody is going to use: numbers may be of any size and escapes
may name half a character. -/
def readValue (skip : Bool) : Nat → Reader Json
  | 0, _ => .error .malformed
  | fuel + 1, cs =>
    match skipSpace cs with
    | 'n' :: rest => (readWord "ull".toList rest).map fun r => (.null, r.2)
    | 't' :: rest => (readWord "rue".toList rest).map fun r => (.bool true, r.2)
    | 'f' :: rest => (readWord "alse".toList rest).map fun r => (.bool false, r.2)
    | '"' :: rest => (readStringFrom skip rest).map fun r => (.str r.1, r.2)
    | '[' :: rest => (readItems skip fuel true rest).map fun r => (.arr r.1, r.2)
    | '\x7b' :: rest => (readMembers skip fuel true rest).map fun r => (.obj r.1, r.2)
    | cs => do
      let (t, rest) ← readNumber cs
      if t.isTooLarge && !skip then throw .malformed
      return (t.toJson, rest)

/-- The items of an array up to its closing bracket. -/
def readItems (skip : Bool) : Nat → Bool → Reader (List Json)
  | 0, _, _ => .error .malformed
  | fuel + 1, first, cs =>
    match skipSpace cs with
    | ']' :: rest => .ok ([], rest)
    | c :: rest => do
      let cs ←
        if first then pure (c :: rest)
        else if c = ',' then
          match skipSpace rest with
          | ']' :: _ => throw .malformed
          | rest => pure rest
        else throw .malformed
      let (j, cs) ← readValue skip fuel cs
      let (js, cs) ← readItems skip fuel false cs
      return (j :: js, cs)
    | [] => .error .malformed

/-- The members of an object up to its closing brace. -/
def readMembers (skip : Bool) : Nat → Bool → Reader (List (String × Json))
  | 0, _, _ => .error .malformed
  | fuel + 1, first, cs =>
    match skipSpace cs with
    | '\x7d' :: rest => .ok ([], rest)
    | c :: rest => do
      let cs ←
        if first then pure (c :: rest)
        else if c = ',' then pure (skipSpace rest)
        else throw .malformed
      let (name, cs) ← readString skip cs
      match skipSpace cs with
      | ':' :: cs => do
        let (j, cs) ← readValue skip fuel cs
        let (js, cs) ← readMembers skip fuel false cs
        return ((name, j) :: js, cs)
      | _ => throw .malformed
    | [] => .error .malformed

end

/-- The value at the start of a text, with what follows it. -/
def readStart (cs : List Char) : Except ReadError (Json × List Char) :=
  readValue false (2 * cs.length + 2) cs

/-- The value a text is. -/
def ofText? (s : String) : Option Json :=
  match readStart s.toList with
  | .ok (j, rest) => if (skipSpace rest).isEmpty then some j else none
  | .error _ => none

/-- Skip a value that is of no interest. -/
def skipValue (cs : List Char) : Except ReadError (List Char) :=
  (readValue true (2 * cs.length + 2) cs).map (·.2)

end Turnstile.Json
