import Turnstile.Text.Quoted
import Turnstile.Text.Property

/-!
The superadmin role as the matching expression sees it. The configured name is written into the
expression as a quoted text. There references to the request and the rule are joined, also inside
the quotation marks, a hash sign starts a comment, and a nested evaluation is wrapped; what is compared
with a role in the end is the text read back from between the quotation marks.
-/

namespace Turnstile.Superadmin

/-- A word starts between the two characters. -/
def wordStarts (before : Option Char) (c : Char) : Bool :=
  Text.isWordChar c && !(before.map Text.isWordChar).getD false

/-- Digits of any script. -/
def isDigit (c : Char) : Bool :=
  if c.toNat < 128 then c.isDigit else Text.decimalDigit.contains c.toNat

/-- After its first letter the reference goes on with digits and a dot. -/
def isReference (rest : List Char) : Bool :=
  (rest.dropWhile isDigit).head? == some '.'

/-- Join references such as `r.` and `p2.` at the start of a word: the dot becomes an underscore.
`pending` says that such a dot is still to come. -/
def joinReferences (before : Option Char) (pending : Bool) : List Char → List Char
  | [] => []
  | c :: rest =>
    if pending && c = '.' then '_' :: joinReferences (some c) false rest
    else if !pending && (c = 'r' || c = 'p') && wordStarts before c && isReference rest then
      c :: joinReferences (some c) true rest
    else c :: joinReferences (some c) pending rest

/-- The text from the opening of a nested evaluation to its closing parenthesis is wrapped once more.
A closing parenthesis has to come before the text ends. `skip` counts characters of an opening that
were already looked at. -/
def wrapEvaluations (before : Option Char) (skip : Nat) (inside : Bool) :
    List Char → Option (List Char)
  | [] => if inside then none else some []
  | c :: rest =>
    match skip with
    | k + 1 =>
      (wrapEvaluations (some c) k inside rest).map fun out =>
        if k = 0 then c :: ("escape_assertion(".toList ++ out) else c :: out
    | 0 =>
      if inside then
        (wrapEvaluations (some c) 0 (c ≠ ')') rest).map fun out =>
          if c = ')' then ')' :: ')' :: out else c :: out
      else if wordStarts before c && "eval(".toList.isPrefixOf (c :: rest) then
        (wrapEvaluations (some c) 4 true rest).map (c :: ·)
      else (wrapEvaluations (some c) 0 false rest).map (c :: ·)

/-- Read a quoted text back, from after its first quotation mark to the end. Escapes other than those
of the quotation mark, the backslash and the three control characters are refused. -/
def unquote : List Char → Option (List Char)
  | [] => none
  | ['"'] => some []
  | '\\' :: c :: rest =>
    let plain := fun d => (unquote rest).map (d :: ·)
    match c with
    | 't' => plain '\t'
    | 'r' => plain '\r'
    | 'n' => plain '\n'
    | '"' => plain '"'
    | '\\' => plain '\\'
    | _ => none
  | c :: rest => (unquote rest).map (c :: ·)

/-- The text that roles are compared with for a configured name, if the expression can be built. -/
def comparedText? (name : String) : Option String := do
  let joined := joinReferences none false (Text.quoteChars name.toList)
  if joined.contains '#' then none
  else
    let wrapped ← wrapEvaluations none 0 false joined
    (unquote (wrapped.drop 1)).map String.ofList

end Turnstile.Superadmin

namespace Turnstile

/-- A name of the superadmin for which the matching expression can be built, with the text that roles
are compared with. -/
structure Superadmin where
  role : String
  text : String
  compared : Superadmin.comparedText? role = some text
  deriving Repr

/-- The superadmin of that name, if the expression can be built. -/
def Superadmin.ofName? (name : String) : Option Superadmin :=
  match h : comparedText? name with
  | some text => some ⟨name, text, h⟩
  | none => none

end Turnstile
