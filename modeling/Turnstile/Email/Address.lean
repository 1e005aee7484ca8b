import Turnstile.Email.International

/-!
E-mail addresses: a name of at most 64 characters, an at sign, and a domain of at most 255. The last at
sign divides. A domain that is none in ASCII counts as what it becomes there.
-/

namespace Turnstile.EmailAddress

/-- Characters of the part before the at sign. -/
def isNameChar (c : Char) : Bool :=
  c.isAlpha || c.isDigit || "!#$%&'*+/=?^_\x60\x7b|\x7d~.-".toList.contains c

/-- Split at the last at sign. -/
def split? (cs : List Char) : Option (List Char × List Char) :=
  if cs.contains '@' then
    let r := cs.reverse
    some (((r.dropWhile (· ≠ '@')).drop 1).reverse, (r.takeWhile (· ≠ '@')).reverse)
  else none

/-- The text is an e-mail address. -/
def isValid (s : String) : Bool :=
  match split? s.toList with
  | none => false
  | some (name, domain) =>
    name.length ≤ 64 && domain.length ≤ 255 && !name.isEmpty && name.all isNameChar &&
      (DomainName.isUsable domain || (DomainName.toAscii? domain).any DomainName.isUsable)

end Turnstile.EmailAddress
