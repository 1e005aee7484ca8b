/-!
Base 64 with either alphabet. The decoder is strict: it accepts what the encoder writes and nothing
else, so there is no padding, no foreign character, and no bit set that carries no data.
-/

namespace Turnstile

/-- Bytes of a message, a key or a digest. -/
abbrev Bytes := List UInt8

/-- The two characters in which alphabets of base 64 differ. -/
structure Base64 where
  char62 : Char
  char63 : Char

namespace Base64

/-- The alphabet of mail and of key files. -/
def standard : Base64 := ⟨'+', '/'⟩

/-- The alphabet that needs no escapes in web addresses. -/
def urlSafe : Base64 := ⟨'-', '_'⟩

/-- The character for six bits. -/
def digit (a : Base64) (n : Nat) : Char :=
  if n < 26 then Char.ofNat (65 + n)
  else if n < 52 then Char.ofNat (97 + (n - 26))
  else if n < 62 then Char.ofNat (48 + (n - 52))
  else if n = 62 then a.char62 else a.char63

/-- The six bits a character stands for. -/
def value? (a : Base64) (c : Char) : Option Nat :=
  if 'A' ≤ c ∧ c ≤ 'Z' then some (c.toNat - 65)
  else if 'a' ≤ c ∧ c ≤ 'z' then some (c.toNat - 97 + 26)
  else if '0' ≤ c ∧ c ≤ '9' then some (c.toNat - 48 + 52)
  else if c = a.char62 then some 62
  else if c = a.char63 then some 63
  else none

def encode (a : Base64) : Bytes → List Char
  | [] => []
  | [x] =>
    let n := x.toNat * 16
    [a.digit (n / 64), a.digit (n % 64)]
  | [x, y] =>
    let n := (x.toNat * 256 + y.toNat) * 4
    [a.digit (n / 4096), a.digit (n / 64 % 64), a.digit (n % 64)]
  | x :: y :: z :: rest =>
    let n := x.toNat * 65536 + y.toNat * 256 + z.toNat
    a.digit (n / 262144) :: a.digit (n / 4096 % 64) :: a.digit (n / 64 % 64) ::
      a.digit (n % 64) :: encode a rest

def decode? (a : Base64) : List Char → Option Bytes
  | [] => some []
  | [_] => none
  | [c, d] => do
    let n := (← a.value? c) * 64 + (← a.value? d)
    if n % 16 = 0 then some [UInt8.ofNat (n / 16)] else none
  | [c, d, e] => do
    let n := (← a.value? c) * 4096 + (← a.value? d) * 64 + (← a.value? e)
    if n % 4 = 0 then some [UInt8.ofNat (n / 1024), UInt8.ofNat (n / 4 % 256)] else none
  | c :: d :: e :: f :: rest => do
    let n := (← a.value? c) * 262144 + (← a.value? d) * 4096 + (← a.value? e) * 64 +
      (← a.value? f)
    let bytes ← decode? a rest
    return UInt8.ofNat (n / 65536) :: UInt8.ofNat (n / 256 % 256) :: UInt8.ofNat (n % 256) :: bytes

/-- Decode text whose last group is filled up with equals signs. -/
def decodePadded? (a : Base64) (cs : List Char) : Option Bytes :=
  if cs.length % 4 ≠ 0 then none
  else
    let body := cs.reverse.dropWhile (· = '=')
    if cs.length - body.length ≤ 2 then a.decode? body.reverse else none

end Base64

/-- The UTF-8 bytes of a text. -/
def utf8 (cs : List Char) : Bytes := (String.ofList cs).toUTF8.toList

/-- The text that bytes are the UTF-8 form of. -/
def ofUtf8? (bs : Bytes) : Option String := String.fromUTF8? ⟨bs.toArray⟩

end Turnstile
