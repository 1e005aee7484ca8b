import Turnstile.Json.Reader
import Turnstile.Time.Reader

/-!
Reading JSON of a given form. A shape says what is expected; text is read from left to right, and the
first fault decides whether the text is no JSON or JSON of another form. Members of a record that the
shape does not name are skipped, a member that stands twice is refused, and the members may also be
given in order, as an array.
-/

namespace Turnstile

/-- Forms of JSON values. A member of a record is given by its name, its shape, and whether it may be
missing. A member of an optional shape may always be missing from an object. -/
inductive Shape where
  | any
  | text
  | bool
  | int (low high : Int)
  | time
  | choice (names : List String)
  | list (item : Shape)
  | optional (item : Shape)
  | record (members : List (String × Shape × Bool))

namespace Shape

open Json

def int64 : Shape := .int (-9223372036854775808) 9223372036854775807

def uint64 : Shape := .int 0 18446744073709551615

def uint32 : Shape := .int 0 4294967295

def uint16 : Shape := .int 0 65535

def isOptional : Shape → Bool
  | .optional _ => true
  | _ => false

/-- The fault of a value that is not of the form asked for. The value is looked at as far as its kind
has to be named, so broken words, numbers and strings are found; arrays and objects are not entered. -/
def mismatchAt (cs : List Char) : ReadError :=
  let read : Except ReadError Unit :=
    match cs with
    | 'n' :: rest => (readWord "ull".toList rest).map fun _ => ()
    | 't' :: rest => (readWord "rue".toList rest).map fun _ => ()
    | 'f' :: rest => (readWord "alse".toList rest).map fun _ => ()
    | '"' :: rest => (readStringFrom false rest).map fun _ => ()
    | '[' :: _ | '\x7b' :: _ => .ok ()
    | cs =>
      match readNumber cs with
      | .ok (t, _) => if t.isTooLarge then .error .malformed else .ok ()
      | .error e => .error e
  match read with
  | .ok _ => .mismatch
  | .error e => e

/-- A string. -/
def readText : Reader String := fun cs =>
  match skipSpace cs with
  | '"' :: rest => readStringFrom false rest
  | cs => .error (mismatchAt cs)

/-- An integer between bounds, written without fraction and exponent. -/
def readInt (low high : Int) : Reader Int := fun cs =>
  match skipSpace cs with
  | c :: rest =>
    if c = '-' || c.isDigit then do
      let (t, rest) ← readNumber (c :: rest)
      if t.isTooLarge then throw .malformed
      match t.toJson with
      | .int n => if low ≤ n ∧ n ≤ high then return (n, rest) else throw .mismatch
      | _ => throw .mismatch
    else .error (mismatchAt (c :: rest))
  | [] => .error .malformed

def readBool : Reader Bool := fun cs =>
  match skipSpace cs with
  | 't' :: rest => (readWord "rue".toList rest).map fun r => (true, r.2)
  | 'f' :: rest => (readWord "alse".toList rest).map fun r => (false, r.2)
  | cs => .error (mismatchAt cs)

/-- One of some names: as a string, or as the only member of an object with the value null. -/
def readChoice (names : List String) : Reader String := fun cs =>
  match skipSpace cs with
  | '"' :: rest => do
    let (s, rest) ← readStringFrom false rest
    if names.contains s then return (s, rest) else throw .mismatch
  | '\x7b' :: rest => do
    let (s, rest) ← readText rest
    if !names.contains s then throw .mismatch
    match skipSpace rest with
    | ':' :: rest =>
      match skipSpace rest with
      | 'n' :: rest => do
        let ((), rest) ← readWord "ull".toList rest
        match skipSpace rest with
        | '\x7d' :: rest => return (s, rest)
        | _ => throw .malformed
      | cs => throw (mismatchAt cs)
    | _ => throw .malformed
  | _ => .error .malformed

/-- Go to the next element of an array: none at its end. -/
def nextElement (first : Bool) (cs : List Char) : Except ReadError (Option (List Char)) :=
  match skipSpace cs with
  | ']' :: _ => .ok none
  | c :: rest =>
    if first then .ok (some (c :: rest))
    else if c = ',' then
      match skipSpace rest with
      | ']' :: _ | [] => .error .malformed
      | rest => .ok (some rest)
    else .error .malformed
  | [] => .error .malformed

/-- Close an array after its last element. -/
def closeArray (cs : List Char) : Except ReadError (List Char) :=
  match skipSpace cs with
  | ']' :: rest => .ok rest
  | _ => .error .malformed

/-- The name of the next member of an object, and what follows it: none at the end of the object. -/
def nextMember (first : Bool) (cs : List Char) :
    Except ReadError (Option (String × List Char)) :=
  match skipSpace cs with
  | '\x7d' :: _ => .ok none
  | c :: rest =>
    let key : Except ReadError (List Char) :=
      if first then .ok (c :: rest)
      else if c = ',' then .ok (skipSpace rest) else .error .malformed
    key.bind fun cs => (readString false cs).map some
  | [] => .error .malformed

/-- The colon between a name and a value. -/
def readColon (cs : List Char) : Except ReadError (List Char) :=
  match skipSpace cs with
  | ':' :: rest => .ok rest
  | _ => .error .malformed

/-- Every member that may not be missing is there. -/
def complete (members : List (String × Shape × Bool)) (found : List (String × Json)) : Bool :=
  members.all fun (name, shape, mayMiss) =>
    mayMiss || shape.isOptional || found.any (·.1 == name)

mutual

/-- Read a value of the shape. -/
def readFrom : Nat → Shape → Reader Json
  | 0, _, _ => .error .malformed
  | _ + 1, .any, cs => Json.readStart cs
  | _ + 1, .text, cs => (readText cs).map fun r => (.str r.1, r.2)
  | _ + 1, .bool, cs => (readBool cs).map fun r => (.bool r.1, r.2)
  | _ + 1, .int low high, cs => (readInt low high cs).map fun r => (.int r.1, r.2)
  | _ + 1, .time, cs => do
    let (s, rest) ← readText cs
    if (Instant.ofText? s).isSome then return (.str s, rest) else throw .mismatch
  | _ + 1, .choice names, cs => (readChoice names cs).map fun r => (.str r.1, r.2)
  | fuel + 1, .list item, cs =>
    match skipSpace cs with
    | '[' :: rest => (readElements fuel item true rest).map fun r => (.arr r.1, r.2)
    | cs => .error (mismatchAt cs)
  | fuel + 1, .optional item, cs =>
    match skipSpace cs with
    | 'n' :: rest => (readWord "ull".toList rest).map fun r => (.null, r.2)
    | cs => readFrom fuel item cs
  | fuel + 1, .record members, cs =>
    match skipSpace cs with
    | '[' :: rest => do
      let (found, rest) ← readInOrder fuel members true rest
      let rest ← closeArray rest
      return (.obj found, rest)
    | '\x7b' :: rest => do
      let (found, rest) ← readNamed fuel members [] true rest
      if complete members found then return (.obj found, rest) else throw .mismatch
    | cs => .error (mismatchAt cs)

/-- Elements of one shape up to the end of the array. -/
def readElements : Nat → Shape → Bool → Reader (List Json)
  | 0, _, _, _ => .error .malformed
  | fuel + 1, item, first, cs => do
    match ← nextElement first cs with
    | none => return ([], (← closeArray cs))
    | some cs =>
      let (j, cs) ← readFrom fuel item cs
      let (js, cs) ← readElements fuel item false cs
      return (j :: js, cs)

/-- The members of a record in the order of the shape; at the end of the array those that are left may
be missing only where the shape says so. -/
def readInOrder :
    Nat → List (String × Shape × Bool) → Bool → Reader (List (String × Json))
  | 0, _, _, _ => .error .malformed
  | _ + 1, [], _, cs => .ok ([], cs)
  | fuel + 1, (name, shape, mayMiss) :: more, first, cs => do
    match ← nextElement first cs with
    | none => if mayMiss then readInOrder fuel more first cs else throw .mismatch
    | some cs =>
      let (j, cs) ← readFrom fuel shape cs
      let (js, cs) ← readInOrder fuel more false cs
      return ((name, j) :: js, cs)

/-- The members of a record by name. -/
def readNamed :
    Nat → List (String × Shape × Bool) → List (String × Json) → Bool →
      Reader (List (String × Json))
  | 0, _, _, _, _ => .error .malformed
  | fuel + 1, members, found, first, cs => do
    match ← nextMember first cs with
    | none => return (found, (skipSpace cs).drop 1)
    | some (name, cs) =>
      match members.find? (·.1 == name) with
      | some (_, shape, _) =>
        if found.any (·.1 == name) then throw .mismatch
        let (j, cs) ← readFrom fuel shape (← readColon cs)
        readNamed fuel members (found ++ [(name, j)]) false cs
      | none =>
        let cs ← skipValue (← readColon cs)
        readNamed fuel members found false cs

end

/-- Read a value of the shape from the start of a text. -/
def readStart (s : Shape) (cs : List Char) : Except ReadError (Json × List Char) :=
  readFrom (4 * cs.length + 16) s cs

/-- Read a text that is a value of the shape. -/
def read (s : Shape) (text : String) : Except ReadError Json := do
  let (j, rest) ← s.readStart text.toList
  if (skipSpace rest).isEmpty then return j else throw .malformed

end Shape

end Turnstile
