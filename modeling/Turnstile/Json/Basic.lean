/-!
JSON values and their compact text: no white space, members in the order they stand in, and escapes
only for quotation marks, backslashes and control characters.
-/

namespace Turnstile

/-- JSON values. A number written with a fraction or an exponent, or as minus zero, is kept as text. -/
inductive Json where
  | null
  | bool (b : Bool)
  | int (n : Int)
  | decimal (text : String)
  | str (s : String)
  | arr (items : List Json)
  | obj (members : List (String × Json))
  deriving Inhabited

namespace Json

/-- The member of an object with the given name, the first if there are several. -/
def get? (j : Json) (name : String) : Option Json :=
  match j with
  | .obj members => (members.find? (·.1 == name)).map (·.2)
  | _ => none

def isNull : Json → Bool
  | .null => true
  | _ => false

def asText? : Json → Option String
  | .str s => some s
  | _ => none

def asInt? : Json → Option Int
  | .int n => some n
  | _ => none

def asBool? : Json → Option Bool
  | .bool b => some b
  | _ => none

def asItems? : Json → Option (List Json)
  | .arr items => some items
  | _ => none

/-- A hexadecimal digit in lower case. -/
def hexDigit (n : Nat) : Char := Nat.digitChar n

/-- One character inside quotation marks. -/
def escapeChar (c : Char) : List Char :=
  match c with
  | '"' => ['\\', '"']
  | '\\' => ['\\', '\\']
  | '\n' => ['\\', 'n']
  | '\r' => ['\\', 'r']
  | '\t' => ['\\', 't']
  | c =>
    if c.toNat = 8 then ['\\', 'b']
    else if c.toNat = 12 then ['\\', 'f']
    else if c.toNat < 32 then
      ['\\', 'u', '0', '0', hexDigit (c.toNat / 16), hexDigit (c.toNat % 16)]
    else [c]

/-- A text between quotation marks. -/
def quoted (s : String) : List Char := '"' :: (s.toList.flatMap escapeChar ++ ['"'])

mutual

/-- The characters of the compact text. -/
def chars : Json → List Char
  | .null => "null".toList
  | .bool true => "true".toList
  | .bool false => "false".toList
  | .int n => (toString n).toList
  | .decimal text => text.toList
  | .str s => quoted s
  | .arr items => '[' :: (itemChars items ++ [']'])
  | .obj members => '\x7b' :: (memberChars members ++ ['\x7d'])

def itemChars : List Json → List Char
  | [] => []
  | [j] => j.chars
  | j :: rest => j.chars ++ ',' :: itemChars rest

def memberChars : List (String × Json) → List Char
  | [] => []
  | [(name, j)] => quoted name ++ ':' :: j.chars
  | (name, j) :: rest => quoted name ++ ':' :: (j.chars ++ ',' :: memberChars rest)

end

/-- The compact text of a value. -/
def text (j : Json) : String := String.ofList j.chars

end Json

end Turnstile
