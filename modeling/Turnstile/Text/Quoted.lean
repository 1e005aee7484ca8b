import Turnstile.Text.Category
import Turnstile.Text.Ranges

/-!
Quoting text for people to read: between double quotes, with escapes for what cannot be seen. The
same escapes are read back by `unquote`, apart from those that name a code point in braces.
-/

namespace Turnstile.Text

/-- Marks and joiners that attach to the character before them without being marks by category. -/
def otherGraphemeExtenders : Ranges :=
  [(0x9BE, 0x9BE), (0x9D7, 0x9D7), (0xB3E, 0xB3E), (0xB57, 0xB57), (0xBBE, 0xBBE),
   (0xBD7, 0xBD7), (0xCC2, 0xCC2), (0xCD5, 0xCD6), (0xD3E, 0xD3E), (0xD57, 0xD57),
   (0xDCF, 0xDCF), (0xDDF, 0xDDF), (0x1B35, 0x1B35), (0x200C, 0x200C), (0x302E, 0x302F),
   (0xFF9E, 0xFF9F), (0x1133E, 0x1133E), (0x11357, 0x11357), (0x114B0, 0x114B0),
   (0x114BD, 0x114BD), (0x115AF, 0x115AF), (0x11930, 0x11930), (0x1D165, 0x1D165),
   (0x1D16E, 0x1D172), (0xE0020, 0xE007F)]

/-- Characters that join the one before them and so do not show by themselves. -/
def extendsGrapheme (c : Char) : Bool :=
  match category c with
  | .Mn | .Me => true
  | _ => otherGraphemeExtenders.contains c.toNat

/-- Characters that are shown as they are: all with a form of their own, and the space. -/
def isShown (c : Char) : Bool :=
  if c.toNat < 128 then 32 ≤ c.toNat && c.toNat ≠ 127
  else !extendsGrapheme c && !(category c).isInvisible

/-- Lower case hexadecimal digits without leading zeros. -/
def hexText (n : Nat) : List Char := Nat.toDigits 16 n

/-- One character of a quoted text. -/
def quoteChar (c : Char) : List Char :=
  match c with
  | '\x00' => ['\\', '0']
  | '\t' => ['\\', 't']
  | '\r' => ['\\', 'r']
  | '\n' => ['\\', 'n']
  | '"' => ['\\', '"']
  | '\\' => ['\\', '\\']
  | c => if isShown c then [c] else '\\' :: 'u' :: '\x7b' :: (hexText c.toNat ++ ['\x7d'])

/-- The characters of a quoted text with its quotation marks. -/
def quoteChars (cs : List Char) : List Char := '"' :: (cs.flatMap quoteChar ++ ['"'])

/-- A text between double quotes. -/
def quote (s : String) : String := String.ofList (quoteChars s.toList)

end Turnstile.Text
