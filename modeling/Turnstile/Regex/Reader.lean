import Turnstile.Regex.Pattern
import Turnstile.Text.Blank

/-!
Reading patterns. A pattern is read from left to right with a stack of open groups and rows of
alternatives; `Pattern.read?` gives none for a text that is not a pattern.
-/

namespace Turnstile.Pattern

/-- Skip white space and comments, which run from a hash sign to the end of the line. -/
def skipSpaceFrom (inComment : Bool) : List Char → List Char
  | [] => []
  | c :: rest =>
    if inComment then skipSpaceFrom (c ≠ '\n') rest
    else if Text.isBlank c then skipSpaceFrom false rest
    else if c = '#' then skipSpaceFrom true rest
    else c :: rest

/-- Skip white space and comments where the pattern is read that way. -/
def skipSpace (ignoreSpace : Bool) (cs : List Char) : List Char :=
  if ignoreSpace then skipSpaceFrom false cs else cs

def hexValue? (c : Char) : Option Nat :=
  if '0' ≤ c ∧ c ≤ '9' then some (c.toNat - 48)
  else if 'a' ≤ c ∧ c ≤ 'f' then some (c.toNat - 87)
  else if 'A' ≤ c ∧ c ≤ 'F' then some (c.toNat - 55)
  else none

def hexNumber? (digits : List Char) : Option Nat :=
  digits.foldlM (fun n c => (hexValue? c).map (n * 16 + ·)) 0

/-- The character with a code point, if that is no surrogate and not too large. -/
def charOfCode? (n : Nat) : Option Char := if n.isValidChar then some (Char.ofNat n) else none

/-- Exactly `count` hexadecimal digits. -/
def readHexDigits (ignoreSpace : Bool) : Nat → Nat → List Char → Option (Nat × List Char)
  | 0, n, cs => some (n, cs)
  | count + 1, n, c :: rest => do
    let v ← hexValue? c
    readHexDigits ignoreSpace count (n * 16 + v) (skipSpace ignoreSpace rest)
  | _ + 1, _, [] => none

/-- The text up to a closing brace, and what follows the brace. -/
def readBraced (ignoreSpace : Bool) (cs : List Char) : Option (List Char × List Char) :=
  let inner := cs.takeWhile (· ≠ '\x7d')
  match cs.dropWhile (· ≠ '\x7d') with
  | _ :: rest =>
    some (if ignoreSpace then inner.filter (!Text.isBlank ·) else inner, rest)
  | [] => none

/-- A character by its code point: in braces, or with a fixed number of digits. -/
def readHex (ignoreSpace : Bool) (digits : Nat) (cs : List Char) : Option (Literal × List Char) :=
  match skipSpace ignoreSpace cs with
  | '\x7b' :: rest => do
    let (inner, rest) ← readBraced ignoreSpace rest
    if inner.isEmpty then none
    else
      let c ← (hexNumber? inner).bind charOfCode?
      return (⟨c, false⟩, skipSpace ignoreSpace rest)
  | cs => do
    let (n, rest) ← readHexDigits ignoreSpace digits 0 cs
    let c ← charOfCode? n
    return (⟨c, digits == 2⟩, rest)

/-- Split a text at the first place where one of the separators stands. -/
def splitAtText? (separator : List Char) : List Char → Option (List Char × List Char)
  | [] => none
  | c :: rest =>
    if separator.isPrefixOf (c :: rest) then some ([], (c :: rest).drop separator.length)
    else (splitAtText? separator rest).map fun (a, b) => (c :: a, b)

/-- A property as it stands between braces, and whether it is negated there. -/
def propertyQuery (cs : List Char) : PropertyQuery × Bool :=
  match splitAtText? ['!', '='] cs with
  | some (p, v) => (.value (String.ofList p) (String.ofList v), true)
  | none =>
    match splitAtText? [':'] cs <|> splitAtText? ['='] cs with
    | some (p, v) => (.value (String.ofList p) (String.ofList v), false)
    | none => (.name (String.ofList cs), false)

/-- A set by a property: one letter, or a name in braces. -/
def readProperty (ignoreSpace negated : Bool) (cs : List Char) :
    Option (SetPattern × List Char) :=
  match skipSpace ignoreSpace cs with
  | '\x7b' :: rest => do
    let (inner, rest) ← readBraced ignoreSpace rest
    let (q, inverted) := propertyQuery inner
    return (.property q (negated != inverted), rest)
  | '\\' :: _ => none
  | c :: rest => some (.property (.name c.toString) negated, skipSpace ignoreSpace rest)
  | [] => none

/-- What an escape may stand for. -/
inductive Escape where
  | literal (l : Literal)
  | assertion (a : AssertionPattern)
  | set (s : SetPattern)

/-- Characters with a meaning of their own in patterns. -/
def isMeta (c : Char) : Bool :=
  ['\\', '.', '+', '*', '?', '(', ')', '|', '[', ']', '\x7b', '\x7d', '^', '$', '#', '&', '-',
    '~'].contains c

/-- Characters that stand for themselves after a backslash. -/
def isEscapable (c : Char) : Bool :=
  isMeta c || (c.toNat < 128 && !c.isAlphanum && c ≠ '<' && c ≠ '>')

/-- The word assertion in braces after `\b`. Braces that do not start with a letter or a hyphen are
left for a repetition. -/
def readWordLook (ignoreSpace : Bool) (cs : List Char) : Option (WordLook × List Char) :=
  match cs with
  | '\x7b' :: rest =>
    let isName := fun c : Char => c.isAlpha || c = '-'
    match skipSpace ignoreSpace rest with
    | [] => none
    | c :: more =>
      if !isName c then some (.boundary, cs)
      else do
        let (inner, rest) ← readBraced ignoreSpace (c :: more)
        match String.ofList inner with
        | "start" => return (.start, rest)
        | "end" => return (.finish, rest)
        | "start-half" => return (.startHalf, rest)
        | "end-half" => return (.finishHalf, rest)
        | _ => none
  | _ => some (.boundary, cs)

/-- The escape after a backslash. -/
def readEscape (ignoreSpace : Bool) : List Char → Option (Escape × List Char)
  | [] => none
  | c :: rest =>
    let plain := fun (code : Nat) => some (Escape.literal ⟨Char.ofNat code, false⟩, rest)
    let short := fun (k : ShortClass) (negated : Bool) =>
      some (Escape.set (.short k negated), skipSpace ignoreSpace rest)
    let look := fun (a : AssertionPattern) => some (Escape.assertion a, rest)
    let hex := fun (digits : Nat) =>
      (readHex ignoreSpace digits rest).map fun (l, rest) => (Escape.literal l, rest)
    let property := fun (negated : Bool) =>
      (readProperty ignoreSpace negated rest).map fun (s, rest) => (Escape.set s, rest)
    match c with
    | 'x' => hex 2
    | 'u' => hex 4
    | 'U' => hex 8
    | 'p' => property false
    | 'P' => property true
    | 'd' => short .digit false
    | 'D' => short .digit true
    | 's' => short .space false
    | 'S' => short .space true
    | 'w' => short .word false
    | 'W' => short .word true
    | 'a' => plain 7
    | 'f' => plain 12
    | 't' => plain 9
    | 'n' => plain 10
    | 'r' => plain 13
    | 'v' => plain 11
    | 'A' => look .textStart
    | 'z' => look .textEnd
    | 'b' => (readWordLook ignoreSpace rest).map fun (k, rest) =>
        (Escape.assertion (.word k), rest)
    | 'B' => look (.word .inside)
    | '<' => look (.word .start)
    | '>' => look (.word .finish)
    | c => if isEscapable c then some (.literal ⟨c, false⟩, rest) else none

/-! ### Sets in brackets -/

/-- What is open around the part of a set that is being read: a bracket, with the parts before it, or
an operation that waits for its right side. -/
inductive SetFrame where
  | bracket (before : List SetPattern) (negated : Bool)
  | op (kind : SetOp) (left : SetPattern)

/-- One set from its parts, the latest first. -/
def joinParts : List SetPattern → SetPattern
  | [] => .empty
  | p :: rest => rest.foldl (fun acc q => .join q acc) p

/-- Give the set that was read to the operation that waits for it. -/
def closeOp (stack : List SetFrame) (s : SetPattern) : SetPattern × List SetFrame :=
  match stack with
  | .op kind left :: stack => (.op kind left s, stack)
  | stack => (s, stack)

/-- One member of a set: an escape or a character for itself. -/
def readSetItem (ignoreSpace : Bool) : List Char → Option (Escape × List Char)
  | [] => none
  | '\\' :: rest => readEscape ignoreSpace rest
  | c :: rest => some (.literal ⟨c, false⟩, rest)

/-- One member or one range of a set. -/
def readSetRange (ignoreSpace : Bool) (cs : List Char) : Option (SetPattern × List Char) := do
  let (first, rest) ← readSetItem ignoreSpace cs
  let single : Option SetPattern :=
    match first with
    | .literal l => some (.literal l)
    | .set s => some s
    | .assertion _ => none
  match skipSpace ignoreSpace rest with
  | [] => none
  | '-' :: more =>
    let after := skipSpace ignoreSpace more
    if after.head? == some ']' || after.head? == some '-' then
      return (← single, '-' :: more)
    else
      let (second, rest) ← readSetItem ignoreSpace after
      match first, second with
      | .literal a, .literal b =>
        if a.char.toNat ≤ b.char.toNat then return (.range a b, rest) else none
      | _, _ => none
  | rest => return (← single, rest)

/-- Hyphens at the start of a bracket stand for themselves. -/
def readLeadingHyphens (ignoreSpace : Bool) (parts : List SetPattern) :
    Nat → List Char → List SetPattern × List Char
  | fuel + 1, '-' :: rest =>
    readLeadingHyphens ignoreSpace (.literal ⟨'-', false⟩ :: parts) fuel
      (skipSpace ignoreSpace rest)
  | _, cs => (parts, cs)

/-- The opening of a bracket after `[`: negation, hyphens, and a bracket that stands for itself. -/
def readSetOpen (ignoreSpace : Bool) (cs : List Char) :
    Option (Bool × List SetPattern × List Char) :=
  let cs := skipSpace ignoreSpace cs
  let (negated, cs) :=
    match cs with
    | '^' :: rest => (true, skipSpace ignoreSpace rest)
    | cs => (false, cs)
  let (parts, cs) := readLeadingHyphens ignoreSpace [] cs.length cs
  match cs with
  | [] => none
  | ']' :: rest =>
    if parts.isEmpty then
      match skipSpace ignoreSpace rest with
      | [] => none
      | rest => some (negated, [.literal ⟨']', false⟩], rest)
    else some (negated, parts, cs)
  | cs => some (negated, parts, cs)

/-- A named ASCII set such as `[:alpha:]`, from after its bracket. -/
def readAsciiClass? : List Char → Option (SetPattern × List Char)
  | ':' :: rest =>
    let (negated, rest) :=
      match rest with
      | '^' :: rest => (true, rest)
      | rest => (false, rest)
    match rest.dropWhile (· ≠ ':') with
    | ':' :: ']' :: after =>
      (AsciiClass.ofName? (String.ofList (rest.takeWhile (· ≠ ':')))).map fun k =>
        (.ascii k negated, after)
    | _ => none
  | _ => none

/-- Read on inside a bracket until the outermost one closes. `parts` is what has been read of the
current part, the latest first. -/
def readSetFrom (ignoreSpace : Bool) :
    Nat → List SetFrame → List SetPattern → List Char → Option (SetPattern × List Char)
  | 0, _, _, _ => none
  | fuel + 1, stack, parts, cs =>
    let operate := fun (kind : SetOp) (rest : List Char) =>
      let (left, stack) := closeOp stack (joinParts parts)
      readSetFrom ignoreSpace fuel (.op kind left :: stack) [] rest
    match skipSpace ignoreSpace cs with
    | [] => none
    | '[' :: rest =>
      match readAsciiClass? rest with
      | some (s, rest) => readSetFrom ignoreSpace fuel stack (s :: parts) rest
      | none => do
        let (negated, inner, rest) ← readSetOpen ignoreSpace rest
        readSetFrom ignoreSpace fuel (.bracket parts negated :: stack) inner rest
    | ']' :: rest =>
      match closeOp stack (joinParts parts) with
      | (s, [.bracket _ negated]) => some (.bracketed s negated, rest)
      | (s, .bracket before negated :: stack) =>
        readSetFrom ignoreSpace fuel stack (.bracketed s negated :: before) rest
      | _ => none
    | '&' :: '&' :: rest => operate .intersection rest
    | '-' :: '-' :: rest => operate .difference rest
    | '~' :: '~' :: rest => operate .symmetricDifference rest
    | cs => do
      let (s, rest) ← readSetRange ignoreSpace cs
      readSetFrom ignoreSpace fuel stack (s :: parts) rest

/-- A set in brackets, from after its first bracket. -/
def readSet (ignoreSpace : Bool) (cs : List Char) : Option (SetPattern × List Char) := do
  let (negated, parts, rest) ← readSetOpen ignoreSpace cs
  readSetFrom ignoreSpace (cs.length + 1) [.bracket [] negated] parts rest

/-! ### Groups and flags -/

def flagOfLetter? : Char → Option Flag
  | 'i' => some .ignoreCase
  | 'm' => some .multiLine
  | 's' => some .dotAll
  | 'U' => some .swapGreed
  | 'u' => some .unicode
  | 'R' => some .crlf
  | 'x' => some .ignoreSpace
  | _ => none

/-- Flag letters up to a colon or a closing parenthesis, which is given back with what follows. Each
letter and the hyphen may stand only once, and a hyphen is followed by a letter. -/
def readFlags (items : List (Flag × Bool)) (cleared justCleared : Bool) :
    List Char → Option (List (Flag × Bool) × List Char)
  | [] => none
  | c :: rest =>
    if c = ':' ∨ c = ')' then
      if justCleared then none else some (items.reverse, c :: rest)
    else if c = '-' then
      if cleared then none else readFlags items true true rest
    else
      match flagOfLetter? c with
      | none => none
      | some f =>
        if items.any (·.1 == f) then none
        else readFlags ((f, !cleared) :: items) cleared false rest

/-- The name of a group, up to its closing angle bracket. -/
def readGroupName (cs : List Char) : Option (String × List Char) :=
  let name := cs.takeWhile (· ≠ '>')
  match name, cs.dropWhile (· ≠ '>') with
  | first :: more, _ :: rest =>
    if (first = '_' || Text.isAlphabetic first) &&
        more.all fun c => c = '_' || c = '.' || c = '[' || c = ']' || Text.isAlphanumeric c
    then some (String.ofList name, rest) else none
  | _, _ => none

/-- What is open around the row that is being read: a group with the row before it, or a row of
alternatives, the latest first. -/
inductive Frame where
  | group (flags : List (Flag × Bool)) (before : List Pattern) (ignoreSpace : Bool)
  | alternatives (branches : List Pattern)

/-- The state of reading: open groups, the current row, the latest first, whether white space is
skipped, and the names of groups so far. -/
structure Reading where
  stack : List Frame := []
  row : List Pattern := []
  ignoreSpace : Bool := false
  names : List String := []

/-- One pattern from a row, the latest first. -/
def ofRow : List Pattern → Pattern
  | [] => .empty
  | p :: rest => rest.foldl (fun acc q => .cat q acc) p

/-- One pattern from alternatives, the latest first. -/
def ofBranches : List Pattern → Pattern
  | [] => .empty
  | p :: rest => rest.foldl (fun acc q => .alt q acc) p

namespace Reading

def push (s : Reading) (p : Pattern) : Reading := { s with row := p :: s.row }

/-- End a row at a bar. -/
def bar (s : Reading) : Reading :=
  match s.stack with
  | .alternatives branches :: stack =>
    { s with stack := .alternatives (ofRow s.row :: branches) :: stack, row := [] }
  | stack => { s with stack := .alternatives [ofRow s.row] :: stack, row := [] }

/-- The pattern of the innermost open group, and the frames around it. -/
def inner (s : Reading) : Pattern × List Frame :=
  match s.stack with
  | .alternatives branches :: stack => (ofBranches (ofRow s.row :: branches), stack)
  | stack => (ofRow s.row, stack)

/-- Close the innermost group. -/
def closeGroup? (s : Reading) : Option Reading :=
  match s.inner with
  | (p, .group items before ignoreSpace :: stack) =>
    some { s with
      stack := stack, row := .group items p :: before, ignoreSpace := ignoreSpace }
  | _ => none

/-- Open a group that sets the given flags. -/
def openGroup (s : Reading) (flags : List (Flag × Bool)) : Reading :=
  { s with
    stack := .group flags s.row s.ignoreSpace :: s.stack
    row := []
    ignoreSpace := ((flags.find? (·.1 == .ignoreSpace)).map (·.2)).getD s.ignoreSpace }

/-- Repeat the latest pattern of the row; there has to be one, and flags are none. -/
def repeatLast? (s : Reading) (min : Nat) (max : Option Nat) : Option Reading :=
  match s.row with
  | [] | .empty :: _ | .flags _ :: _ => none
  | p :: row => some { s with row := .loop p min max :: row }

end Reading

/-- A question mark after a repetition asks for fewer turns first, which makes no difference to
whether there is a match. -/
def skipLazy : List Char → List Char
  | '?' :: rest => rest
  | cs => cs

/-- A group from after its parenthesis, or flags for the rest of the group around it. -/
def readGroup (s : Reading) (cs : List Char) : Option (Reading × List Char) :=
  let named := fun rest => do
    let (name, rest) ← readGroupName rest
    if s.names.contains name then none
    else some ({ s with names := name :: s.names }.openGroup [], rest)
  match skipSpace s.ignoreSpace cs with
  | '?' :: '=' :: _ | '?' :: '!' :: _ | '?' :: '<' :: '=' :: _ | '?' :: '<' :: '!' :: _ => none
  | '?' :: 'P' :: '<' :: rest => named rest
  | '?' :: '<' :: rest => named rest
  | '?' :: rest => do
    let (items, rest) ← readFlags [] false false rest
    match rest with
    | ':' :: rest => return (s.openGroup items, rest)
    | ')' :: rest =>
      if items.isEmpty then none
      else
        let ignoreSpace :=
          ((items.find? (·.1 == .ignoreSpace)).map (·.2)).getD s.ignoreSpace
        return ({ s.push (.flags items) with ignoreSpace := ignoreSpace }, rest)
    | _ => none
  | cs => some (s.openGroup [], cs)

/-! ### Repetitions -/

/-- Decimal digits with white space around them. -/
def readDigits (ignoreSpace : Bool) (cs : List Char) : List Char × List Char :=
  let cs := cs.dropWhile Text.isBlank
  let belongs := fun c : Char => c.isDigit || (ignoreSpace && Text.isBlank c)
  ((cs.takeWhile belongs).filter Char.isDigit, (cs.dropWhile belongs).dropWhile Text.isBlank)

/-- A repetition count; it fits in 32 bits. -/
def count? (digits : List Char) : Option Nat :=
  if digits.isEmpty then none
  else
    let n := digits.foldl (fun n c => n * 10 + (c.toNat - 48)) 0
    if n < 4294967296 then some n else none

/-- The bounds of a repetition, from after the opening brace to after the closing one. -/
def readBounds (ignoreSpace : Bool) (cs : List Char) : Option (Nat × Option Nat × List Char) :=
  let (low, rest) := readDigits ignoreSpace (skipSpace ignoreSpace cs)
  match rest with
  | ',' :: rest =>
    match skipSpace ignoreSpace rest with
    | '\x7d' :: rest => do return (← count? low, none, rest)
    | rest =>
      let (high, rest) := readDigits ignoreSpace rest
      match rest with
      | '\x7d' :: rest => do
        let a ← count? low
        let b ← count? high
        if a ≤ b then return (a, some b, rest) else none
      | _ => none
  | '\x7d' :: rest => do
    let n ← count? low
    return (n, some n, rest)
  | _ => none

/-! ### The whole pattern -/

/-- Read one piece of a pattern that starts with `c`. -/
def readPiece (s : Reading) (c : Char) (rest : List Char) : Option (Reading × List Char) :=
  let repeated := fun (min : Nat) (max : Option Nat) => do
    let s ← s.repeatLast? min max
    return (s, skipLazy rest)
  match c with
  | '(' => readGroup s rest
  | ')' => do return (← s.closeGroup?, rest)
  | '|' => some (s.bar, rest)
  | '[' => do
    let (chars, rest) ← readSet s.ignoreSpace rest
    return (s.push (.set chars), rest)
  | '?' => repeated 0 (some 1)
  | '*' => repeated 0 none
  | '+' => repeated 1 none
  | '\x7b' => do
    let (min, max, rest) ← readBounds s.ignoreSpace rest
    let s ← s.repeatLast? min max
    return (s, skipLazy (skipSpace s.ignoreSpace rest))
  | '\\' => do
    let (e, rest) ← readEscape s.ignoreSpace rest
    match e with
    | .literal l => return (s.push (.literal l), rest)
    | .assertion a => return (s.push (.assertion a), rest)
    | .set chars => return (s.push (.set chars), rest)
  | '.' => some (s.push .dot, rest)
  | '^' => some (s.push (.assertion .caret), rest)
  | '$' => some (s.push (.assertion .dollar), rest)
  | c => some (s.push (.literal ⟨c, false⟩), rest)

/-- Read pieces to the end. Each takes at least one character, so the fuel is never the reason to
stop when it starts at the number of characters. -/
def readFrom : Nat → Reading → List Char → Option Pattern
  | fuel, s, cs =>
    match skipSpace s.ignoreSpace cs with
    | [] =>
      match s.inner with
      | (p, []) => some p
      | _ => none
    | c :: rest =>
      match fuel with
      | 0 => none
      | fuel + 1 => do
        let (s, rest) ← readPiece s c rest
        readFrom fuel s rest

/-- The pattern a text is, if it is one. -/
def read? (cs : List Char) : Option Pattern := do
  let p ← readFrom cs.length {} cs
  if p.depth ≤ maxDepth then some p else none

end Turnstile.Pattern
