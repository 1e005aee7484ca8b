import Turnstile.Encoding.Base64
import Turnstile.Text.Integer

/-!
Stored password hashes as text: fields behind dollar signs, which name the algorithm, its version, its
parameters, the salt and the hash. Version and parameters may be left out, and so may the end.
-/

namespace Turnstile

/-- What is wrong with a value of a field. -/
inductive ValueFault where
  | badChar (c : Char)
  | badFormat
  | malformed
  | tooLong
  | tooShort
  deriving DecidableEq, Repr

def ValueFault.message : ValueFault → String
  | .badChar c => "contains invalid character: '" ++ String.singleton c ++ "'"
  | .badFormat => "value format is invalid"
  | .malformed => "value malformed"
  | .tooLong => "value to long"
  | .tooShort => "value to short"

/-- Why a stored hash cannot be used. -/
inductive HashError where
  | missingField
  | trailingField
  | badName
  | badValue (fault : ValueFault)
  | tooManyParams
  | badSalt (fault : ValueFault)
  | badEncoding
  | badEncodedLength
  | shortHash
  | unknownAlgorithm
  | unknownVersion
  deriving DecidableEq, Repr

def HashError.message : HashError → String
  | .missingField => "password hash string missing field"
  | .trailingField => "password hash string contains trailing characters"
  | .badName => "invalid parameter name"
  | .badValue fault => "invalid parameter value: " ++ fault.message
  | .tooManyParams => "maximum number of parameters reached"
  | .badSalt fault => "salt invalid: " ++ fault.message
  | .badEncoding => "invalid Base64 encoding"
  | .badEncodedLength => "invalid Base64 length"
  | .shortHash => "output size too short, expected at least 10 bytes"
  | .unknownAlgorithm => "unsupported algorithm"
  | .unknownVersion => "invalid algorithm version"

structure StoredHash where
  algorithm : String
  version : Option Nat
  params : List (String × String)
  salt : Option String
  hash : Option Bytes
  deriving DecidableEq, Repr

namespace StoredHash

/-- Bytes a text takes. -/
def byteCount (cs : List Char) : Nat := (String.ofList cs).utf8ByteSize

def isNameChar (c : Char) : Bool := ('a' ≤ c && c ≤ 'z') || c.isDigit || c = '-'

def isValueChar (c : Char) : Bool :=
  c.isAlphanum || c = '/' || c = '+' || c = '.' || c = '-'

/-- Names of algorithms and parameters have one to 32 characters. -/
def readName (cs : List Char) : Except HashError String :=
  if cs.isEmpty || 32 < byteCount cs || !cs.all isNameChar then .error .badName
  else .ok (String.ofList cs)

/-- Values have at most 64 characters. -/
def readValue (cs : List Char) : Except HashError (List Char) :=
  if 64 < byteCount cs then .error (.badValue .tooLong)
  else
    match cs.find? fun c => !isValueChar c with
    | some c => .error (.badValue (.badChar c))
    | none => .ok cs

/-- Numbers of 32 bits, written without leading zeros. -/
def readDecimal (cs : List Char) : Except HashError Nat :=
  if cs.isEmpty then .error (.badValue .malformed)
  else
    match cs.find? fun c => !c.isDigit with
    | some c => .error (.badValue (.badChar c))
    | none =>
      if cs.head? = some '0' ∧ 1 < cs.length then .error (.badValue .badFormat)
      else
        match Text.readInteger 0 4294967295 (String.ofList cs) with
        | .ok n => .ok n.toNat
        | .error _ => .error (.badValue .badFormat)

/-- One parameter: a name, an equals sign and a value. -/
def readParam (cs : List Char) : Except HashError (String × String) := do
  match cs.splitOn '=' with
  | name :: value :: rest =>
    let name ← readName name
    let value ← readValue value
    if rest.isEmpty then return (name, String.ofList value) else throw (.badValue .malformed)
  | pieces =>
    let _ ← readName (pieces.headD [])
    throw (.badValue .malformed)

def readParams (cs : List Char) : Except HashError (List (String × String)) :=
  if 127 < byteCount cs then .error .tooManyParams
  else (cs.splitOn ',').mapM readParam

/-- Salts are kept as they are written. -/
def readSalt (cs : List Char) : Except HashError String :=
  if byteCount cs < 4 then .error (.badSalt .tooShort)
  else if 64 < byteCount cs then .error (.badSalt .tooLong)
  else
    match cs.find? fun c => !isValueChar c with
    | some c => .error (.badSalt (.badChar c))
    | none => .ok (String.ofList cs)

/-- Bytes in base 64 without padding, at most so many. -/
def decodeBytes (most : Nat) (cs : List Char) : Except HashError Bytes :=
  let size := byteCount cs
  if most < size / 4 * 3 + size % 4 * 3 / 4 then .error .badEncodedLength
  else
    match Base64.standard.decode? cs with
    | some bytes => .ok bytes
    | none => .error .badEncoding

/-- Hashes have from ten to 64 bytes. -/
def readHash (cs : List Char) : Except HashError Bytes := do
  let bytes ← decodeBytes 64 cs
  if bytes.length < 10 then throw .shortHash
  return bytes

/-- A version and the fields behind it, if the first field is a version. -/
def readVersion (fields : List (List Char)) : Except HashError (Option Nat × List (List Char)) :=
  match fields with
  | ('v' :: '=' :: value) :: rest =>
    if value.contains ',' then .ok (none, fields)
    else do return (some (← readDecimal (← readValue value)), rest)
  | fields => .ok (none, fields)

/-- Parameters and the fields behind them, if the first field holds parameters. -/
def readParamField (fields : List (List Char)) :
    Except HashError (List (String × String) × List (List Char)) :=
  match fields with
  | field :: rest =>
    if field.contains '=' then do return (← readParams field, rest) else .ok ([], fields)
  | [] => .ok ([], [])

/-- Read a stored hash. -/
def ofText (s : String) : Except HashError StoredHash := do
  match s.toList.splitOn '$' with
  | [] :: name :: fields =>
    let algorithm ← readName name
    let (version, fields) ← readVersion fields
    let (params, fields) ← readParamField fields
    match fields with
    | [] => return ⟨algorithm, version, params, none, none⟩
    | [salt] => return ⟨algorithm, version, params, some (← readSalt salt), none⟩
    | salt :: hash :: rest =>
      let salt ← readSalt salt
      let hash ← readHash hash
      if !rest.isEmpty then throw .trailingField
      return ⟨algorithm, version, params, some salt, some hash⟩
  | _ => throw .missingField

/-- The text to store. -/
def text (h : StoredHash) : String :=
  "$" ++ h.algorithm ++
    (match h.version with
      | some n => "$v=" ++ toString n
      | none => "") ++
    (if h.params.isEmpty then ""
      else "$" ++ ",".intercalate (h.params.map fun p => p.1 ++ "=" ++ p.2)) ++
    (match h.salt with
      | some salt => "$" ++ salt
      | none => "") ++
    (match h.hash with
      | some hash => "$" ++ String.ofList (Base64.standard.encode hash)
      | none => "")

end StoredHash

end Turnstile
