import Turnstile.Encoding.Base64

/-!
Key files: text blocks between dashed lines, and the tagged binary values inside them.
-/

namespace Turnstile

/-- A tagged binary value. Sequences hold further values; everything else is kept as bytes under its
tag. -/
inductive Der where
  | sequence (items : List Der)
  | primitive (tag : UInt8) (content : Bytes)
  deriving Inhabited

namespace Der

def bigEndianNat (bs : Bytes) : Nat := bs.foldl (fun n b => n * 256 + b.toNat) 0

/-- The length of a value's content, in the short or the long form. -/
def readLength : Bytes → Option (Nat × Bytes)
  | [] => none
  | b :: rest =>
    if b < 0x80 then some (b.toNat, rest)
    else
      let n := b.toNat - 0x80
      if n = 0 ∨ 8 < n ∨ rest.length < n then none
      else some (bigEndianNat (rest.take n), rest.drop n)

/-- Read values one after the other to the end of the bytes. -/
def readAll : Nat → Bytes → Option (List Der)
  | 0, bs => if bs.isEmpty then some [] else none
  | fuel + 1, bs =>
    match bs with
    | [] => some []
    | tag :: rest => do
      let (n, rest) ← readLength rest
      if rest.length < n then none
      let content := rest.take n
      let value ←
        if tag = 0x30 then (readAll fuel content).map .sequence
        else some (.primitive tag content)
      let more ← readAll fuel (rest.drop n)
      return value :: more

def ofBytes? (bs : Bytes) : Option (List Der) := readAll (2 * bs.length + 2) bs

def integerTag : UInt8 := 0x02
def bitStringTag : UInt8 := 0x03
def octetStringTag : UInt8 := 0x04
def objectIdTag : UInt8 := 0x06

/-- A number that is not negative and is written without needless zeros. -/
def asNat? : Der → Option Nat
  | .primitive tag content =>
    if tag ≠ integerTag then none
    else
      match content with
      | [] => none
      | [b] => if b < 0x80 then some b.toNat else none
      | b :: c :: _ =>
        if b ≥ 0x80 ∨ (b = 0 ∧ c < 0x80) then none else some (bigEndianNat content)
  | .sequence _ => none

mutual

/-- The content of the first bit or octet string, looking into sequences. -/
def firstString? : Der → Option Bytes
  | .sequence items => firstStringIn? items
  | .primitive tag content =>
    if tag = bitStringTag then some (content.drop 1)
    else if tag = octetStringTag then some content
    else none

def firstStringIn? : List Der → Option Bytes
  | [] => none
  | d :: rest => firstString? d <|> firstStringIn? rest

end

mutual

/-- The first object identifier among the given ones, looking into sequences. -/
def firstKnownId? (known : List Bytes) : Der → Option Bytes
  | .sequence items => firstKnownIdIn? known items
  | .primitive tag content =>
    if tag = objectIdTag && known.contains content then some content else none

def firstKnownIdIn? (known : List Bytes) : List Der → Option Bytes
  | [] => none
  | d :: rest => firstKnownId? known d <|> firstKnownIdIn? known rest

end

end Der

/-- A text block of a key file: the label between its dashes, and the bytes inside. -/
structure PemBlock where
  label : String
  content : Bytes

namespace PemBlock

/-- Split a text at the first place where the mark stands. -/
def splitAt? (mark : List Char) : List Char → Option (List Char × List Char)
  | [] => none
  | c :: rest =>
    if mark.isPrefixOf (c :: rest) then some ([], (c :: rest).drop mark.length)
    else (splitAt? mark rest).map fun (a, b) => (c :: a, b)

def isSpace (c : Char) : Bool := c = ' ' || c = '\t' || c = '\n' || c = '\r'

/-- Drop line ends, with the white space before them. -/
def joinLines (cs : List Char) : List Char :=
  let trimmed := fun (line : List Char) => (line.reverse.dropWhile isSpace).reverse
  (cs.splitBy fun a _ => a ≠ '\n').flatMap trimmed

/-- Lines before an empty line are headers and carry no data. -/
def dropHeaders (cs : List Char) : List Char :=
  match splitAt? "\n\n".toList cs with
  | some (_, body) => body
  | none =>
    match splitAt? "\r\n\r\n".toList cs with
    | some (_, body) => body
    | none => cs

/-- The first block of a text. The labels of both its lines have to agree. -/
def ofText? (s : String) : Option PemBlock := do
  let (_, rest) ← splitAt? "-----BEGIN ".toList s.toList
  let (label, rest) ← splitAt? "-----".toList rest
  let (body, rest) ← splitAt? "-----END ".toList (rest.dropWhile isSpace)
  let (ending, _) ← splitAt? "-----".toList rest
  let content ← Base64.standard.decodePadded? (joinLines (dropHeaders body))
  if label.isEmpty ∨ label ≠ ending then none
  return ⟨String.ofList label, content⟩

end PemBlock

end Turnstile
