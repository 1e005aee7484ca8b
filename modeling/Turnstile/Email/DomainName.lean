import Turnstile.Email.IpLiteral

/-!
Names of domains in ASCII: labels of letters, digits and inner hyphens with dots between them.
-/

namespace Turnstile.DomainName

def isLetterOrDigit (c : Char) : Bool := c.isAlpha || c.isDigit

/-- One to 63 letters, digits and hyphens, with no hyphen at either end. -/
def isLabel (cs : List Char) : Bool :=
  1 ≤ cs.length && cs.length ≤ 63 &&
    cs.all (fun c => isLetterOrDigit c || c = '-') &&
    cs.head? ≠ some '-' && cs.getLast? ≠ some '-'

/-- Labels with dots between them. -/
def isName (cs : List Char) : Bool := (cs.splitOn '.').all isLabel

/-- The text ends with an address in brackets. -/
def endsWithLiteral (cs : List Char) : Bool :=
  match cs.reverse with
  | ']' :: rest =>
    let inner := rest.takeWhile fun c => IpLiteral.isHexDigit c || c = ':' || c = '.'
    (rest.drop inner.length).head? = some '[' && IpLiteral.isAddress inner.reverse
  | _ => false

/-- A name, or a text that ends with an address in brackets. -/
def isUsable (cs : List Char) : Bool := isName cs || endsWithLiteral cs

end Turnstile.DomainName
