/-!
White space as the Unicode standard defines it, and trimming text of it.
-/

namespace Turnstile.Text

/-- Characters with the property `White_Space`. -/
def isBlank (c : Char) : Bool :=
  let n := c.toNat
  (9 ≤ n && n ≤ 13) || n == 0x20 || n == 0x85 || n == 0xA0 || n == 0x1680 ||
    (0x2000 ≤ n && n ≤ 0x200A) || n == 0x2028 || n == 0x2029 || n == 0x202F || n == 0x205F ||
    n == 0x3000

/-- The text without the white space it starts with. -/
def trimStart (cs : List Char) : List Char := cs.dropWhile isBlank

/-- The text without the white space it ends with. -/
def trimEnd (cs : List Char) : List Char := (trimStart cs.reverse).reverse

/-- The text without white space at either end. -/
def trim (s : String) : String := String.ofList (trimEnd (trimStart s.toList))

/-- Nothing but white space. -/
def isBlankText (s : String) : Bool := s.toList.all isBlank

end Turnstile.Text
