/-!
Media types as they stand in a header: a type, a slash, a subtype with an optional suffix behind a plus
sign, and parameters behind semicolons.
-/

namespace Turnstile.MediaType

/-- Characters of names and of bare values. -/
def isTokenChar (c : Char) : Bool :=
  c.isAlphanum || "!#$%&'*+-.^_\x60|~".toList.contains c

/-- Characters that may stand between quotation marks. -/
def isQuotedChar (c : Char) : Bool := c.toNat = 9 || (32 ≤ c.toNat && c.toNat ≠ 127)

mutual

/-- The rest of a header is a list of parameters. Blanks may stand before a name. -/
def areParams : Nat → List Char → Bool
  | _, [] => true
  | 0, _ => false
  | fuel + 1, ' ' :: rest => areParams fuel rest
  | fuel + 1, cs =>
    let name := cs.takeWhile fun c => isTokenChar c && c ≠ '='
    match name, cs.dropWhile fun c => isTokenChar c && c ≠ '=' with
    | _ :: _, '=' :: rest => isValue fuel rest
    | _, _ => false

/-- A value and the parameters behind it. -/
def isValue : Nat → List Char → Bool
  | 0, _ => false
  | fuel + 1, '"' :: rest =>
    let inside := rest.takeWhile fun c => isQuotedChar c && c ≠ '"'
    match inside, rest.dropWhile fun c => isQuotedChar c && c ≠ '"' with
    | _ :: _, '"' :: rest =>
      match rest.dropWhile (· = ' ') with
      | [] => true
      | ';' :: rest => areParams fuel rest
      | _ => false
    | _, _ => false
  | fuel + 1, cs =>
    match cs.dropWhile isTokenChar with
    | [] => true
    | ';' :: rest => !(cs.takeWhile isTokenChar).isEmpty && areParams fuel rest
    | _ => false

end

/-- The type and the subtype without its suffix, and the suffix, in lower case. -/
def parts? (s : String) : Option (String × String × Option String) := do
  let cs := s.toList.map Char.toLower
  let kind := cs.takeWhile isTokenChar
  let '/' :: rest := cs.dropWhile isTokenChar | none
  let subtype := rest.takeWhile isTokenChar
  if kind.isEmpty || subtype.isEmpty then none
  else
    match rest.dropWhile isTokenChar with
    | [] => pure ()
    | c :: params =>
      if (c = ';' || c = ' ') && areParams (params.length + 1) params then pure () else none
    let suffix := (subtype.reverse.takeWhile (· ≠ '+')).reverse
    let base := subtype.take (subtype.length - suffix.length - 1)
    if subtype.contains '+' && !base.isEmpty then
      return (String.ofList kind, String.ofList base, some (String.ofList suffix))
    else return (String.ofList kind, String.ofList subtype, none)

/-- The header announces JSON. -/
def isJson (s : String) : Bool :=
  match parts? s with
  | some ("application", subtype, suffix?) => subtype == "json" || suffix? == some "json"
  | _ => false

end Turnstile.MediaType
