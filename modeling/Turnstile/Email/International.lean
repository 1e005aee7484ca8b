import Turnstile.Email.DomainName
import Turnstile.Email.Punycode
import Turnstile.Text.Compatibility
import Turnstile.Text.Direction

/-!
Names of domains in all scripts. Characters are replaced by what they stand for, and a label that is
not in ASCII then has its characters encoded behind `xn--`.
-/

namespace Turnstile.DomainName

/-- Characters without a visible effect, which are dropped. -/
def droppedRanges : Text.Ranges :=
  [(0xAD, 0xAD), (0x34F, 0x34F), (0x180B, 0x180D), (0x180F, 0x180F), (0x200B, 0x200B),
   (0x2060, 0x2060), (0x2064, 0x2064), (0xFE00, 0xFE0F), (0xFEFF, 0xFEFF), (0x1BCA0, 0x1BCA3),
   (0xE0100, 0xE01EF)]

/-- Characters that are refused although their category would pass: letters that stood for another
letter in an earlier version of the standard, fillers, and signs that describe a character. -/
def refusedRanges : Text.Ranges :=
  [(0x4C0, 0x4C0), (0x10A0, 0x10C5), (0x115F, 0x1160), (0x1680, 0x1680), (0x17B4, 0x17B5),
   (0x1806, 0x1806), (0x2132, 0x2132), (0x2183, 0x2183), (0x2FF0, 0x2FFF), (0x3164, 0x3164),
   (0xFFA0, 0xFFA0), (0xFFFC, 0xFFFD), (0x2F868, 0x2F868), (0x2F874, 0x2F874), (0x2F91F, 0x2F91F),
   (0x2F95F, 0x2F95F), (0x2F9BF, 0x2F9BF)]

/-- Dots of other scripts, which part labels. -/
def dots : List Char := ['\u3002', '\uff0e', '\uff61']

/-- Characters that stay although others may stand for them: the sharp s, the final sigma, and the
two invisible joiners. -/
def keptChars : List Char := ['\u00df', '\u03c2', '\u200c', '\u200d']

/-- What a character becomes in a name, `none` if it may not stand there. -/
def image? (c : Char) : Option (List Char) :=
  if c.toNat < 128 then some [c.toLower]
  else if dots.contains c then some ['.']
  else if keptChars.contains c then some [c]
  else if droppedRanges.contains c.toNat then some []
  else if refusedRanges.contains c.toNat then none
  else if [.Cc, .Cf, .Cn, .Co, .Cs, .Zl, .Zp].contains (Text.category c) then none
  else
    let plain := Text.plainForm c
    if plain.any fun d => d = '.' || d = '\u3002' then none else some plain

/-- Only characters that stand for themselves, and no mark at the start. -/
def isPlainLabel (cs : List Char) : Bool :=
  cs.all (fun c => image? c = some [c]) && !cs.head?.any fun c => (Text.category c).isMark

/-- The text behind `xn--`. -/
def encoded? : List Char → Option (List Char)
  | 'x' :: 'n' :: '-' :: '-' :: rest => some rest
  | _ => none

/-- The characters of a label with what follows `xn--` decoded, `none` if they may not stand there. -/
def readLabel (cs : List Char) : Option (List Char) := do
  let label ←
    match encoded? cs with
    | some rest => (Punycode.decode? rest).filter fun decoded => Text.compose decoded = decoded
    | none => some cs
  if isPlainLabel label then some label else none

/-- The label in ASCII. -/
def writeLabel (cs : List Char) : List Char :=
  if cs.all (·.toNat < 128) then cs else "xn--".toList ++ Punycode.encode cs

/-- The name in ASCII. With one label from right to left in it, every label is of one direction. -/
def toAscii? (cs : List Char) : Option (List Char) := do
  let mapped ← cs.mapM image?
  let read ← ((Text.compose mapped.flatten).splitOn '.').mapM readLabel
  if read.any Text.isRightToLeft && !read.all Text.isOneDirection then none
  else some (List.intercalate ['.'] (read.map writeLabel))

end Turnstile.DomainName
