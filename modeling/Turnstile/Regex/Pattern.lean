import Turnstile.Regex.Basic

/-!
Patterns: regular expressions as they are written, before flags are applied. `Pattern.toRegex?` gives
the expression a pattern stands for, or none where the pattern asks for what does not exist, such as
an unknown property of characters or a set that would split a character into bytes.
-/

namespace Turnstile

/-- Flags that a pattern may set or clear. -/
inductive Flag where
  | ignoreCase | multiLine | dotAll | swapGreed | unicode | crlf | ignoreSpace
  deriving DecidableEq, Repr

/-- The flags in force while a pattern is read off. -/
structure Flags where
  ignoreCase : Bool := false
  multiLine : Bool := false
  dotAll : Bool := false
  unicode : Bool := true
  crlf : Bool := false
  deriving DecidableEq, Repr

namespace Flags

def set (f : Flags) (flag : Flag) (on : Bool) : Flags :=
  match flag with
  | .ignoreCase => { f with ignoreCase := on }
  | .multiLine => { f with multiLine := on }
  | .dotAll => { f with dotAll := on }
  | .unicode => { f with unicode := on }
  | .crlf => { f with crlf := on }
  | .swapGreed | .ignoreSpace => f

def setAll (f : Flags) (items : List (Flag × Bool)) : Flags :=
  items.foldl (fun f i => f.set i.1 i.2) f

end Flags

/-- A character as written; `byte` marks the two-digit hexadecimal form, which names a byte where
characters are bytes. -/
structure Literal where
  char : Char
  byte : Bool := false
  deriving DecidableEq, Repr

/-- Sets with a letter of their own. -/
inductive ShortClass where
  | digit | space | word
  deriving DecidableEq, Repr

/-- The named sets written between brackets and colons; all are ASCII sets. -/
inductive AsciiClass where
  | alnum | alpha | ascii | blank | cntrl | digit | graph | lower | print | punct | space | upper
  | word | xdigit
  deriving DecidableEq, Repr

namespace AsciiClass

def ofName? : String → Option AsciiClass
  | "alnum" => some .alnum
  | "alpha" => some .alpha
  | "ascii" => some .ascii
  | "blank" => some .blank
  | "cntrl" => some .cntrl
  | "digit" => some .digit
  | "graph" => some .graph
  | "lower" => some .lower
  | "print" => some .print
  | "punct" => some .punct
  | "space" => some .space
  | "upper" => some .upper
  | "word" => some .word
  | "xdigit" => some .xdigit
  | _ => none

def ranges : AsciiClass → Text.Ranges
  | .alnum => [(48, 57), (65, 90), (97, 122)]
  | .alpha => [(65, 90), (97, 122)]
  | .ascii => [(0, 127)]
  | .blank => [(9, 9), (32, 32)]
  | .cntrl => [(0, 31), (127, 127)]
  | .digit => [(48, 57)]
  | .graph => [(33, 126)]
  | .lower => [(97, 122)]
  | .print => [(32, 126)]
  | .punct => [(33, 47), (58, 64), (91, 96), (123, 126)]
  | .space => [(9, 13), (32, 32)]
  | .upper => [(65, 90)]
  | .word => [(48, 57), (65, 90), (95, 95), (97, 122)]
  | .xdigit => [(48, 57), (65, 70), (97, 102)]

end AsciiClass

/-- How a set is asked for by a property: by one name, or by a property and its value. -/
inductive PropertyQuery where
  | name (n : String)
  | value (property value : String)
  deriving DecidableEq, Repr

/-- Binary operations on sets. -/
inductive SetOp where
  | intersection | difference | symmetricDifference
  deriving DecidableEq, Repr

/-- Sets of characters as written. `join` puts two parts side by side. -/
inductive SetPattern where
  | empty
  | literal (l : Literal)
  | range (a b : Literal)
  | short (k : ShortClass) (negated : Bool)
  | ascii (k : AsciiClass) (negated : Bool)
  | property (q : PropertyQuery) (negated : Bool)
  | join (s t : SetPattern)
  | bracketed (s : SetPattern) (negated : Bool)
  | op (kind : SetOp) (s t : SetPattern)
  deriving DecidableEq, Repr

/-- Assertions as written; the flags in force decide what a line is. -/
inductive AssertionPattern where
  | caret | dollar
  | textStart | textEnd
  | word (kind : WordLook)
  deriving DecidableEq, Repr

/-- Patterns. The right part of `cat` or `alt` may be the rest of a longer row; the left part never is
a row of the same kind. -/
inductive Pattern where
  | empty
  | flags (items : List (Flag × Bool))
  | literal (l : Literal)
  | dot
  | assertion (a : AssertionPattern)
  | set (s : SetPattern)
  | loop (p : Pattern) (min : Nat) (max : Option Nat)
  | group (flags : List (Flag × Bool)) (p : Pattern)
  | alt (p q : Pattern)
  | cat (p q : Pattern)
  deriving DecidableEq, Repr

namespace CharClass

/-- No member is a byte beyond ASCII. -/
def isAsciiOnly (s : CharClass) : Bool :=
  (List.range 128).all fun n => !s.contains (n + 128)

/-- All bytes outside the class. -/
def byteComplement (s : CharClass) : CharClass := .diff (.ranges [(0, 255)]) s

/-- Both cases of each ASCII letter of the class. -/
def asciiFolded (s : CharClass) : CharClass :=
  .ranges <| Text.Ranges.ofList <| (List.range 256).filterMap fun n =>
    let other := if 65 ≤ n && n ≤ 90 then n + 32 else if 97 ≤ n && n ≤ 122 then n - 32 else n
    if s.contains n || s.contains other then some (n, n) else none

end CharClass

namespace ShortClass

def ranges (k : ShortClass) (unicode : Bool) : Text.Ranges :=
  match k, unicode with
  | .digit, true => Text.decimalDigit
  | .space, true => Text.whiteSpace
  | .word, true => Text.word
  | .digit, false => AsciiClass.digit.ranges
  | .space, false => AsciiClass.space.ranges
  | .word, false => AsciiClass.word.ranges

end ShortClass

namespace PropertyQuery

def ranges? : PropertyQuery → Option Text.Ranges
  | .name n => Text.namedRanges? n
  | .value p v => Text.valueRanges? p v

end PropertyQuery

namespace SetPattern

/-- Close a set under case folding where the flags ask for it. -/
def foldWhere (f : Flags) (s : CharClass) : CharClass :=
  if !f.ignoreCase then s else if f.unicode then .folded s else s.asciiFolded

/-- Complement a set where asked to; where characters are bytes, the outcome has to be ASCII. -/
def negateWhere? (f : Flags) (negated : Bool) (s : CharClass) : Option CharClass :=
  if f.unicode then some (if negated then .compl s else s)
  else
    let s := if negated then s.byteComplement else s
    if s.isAsciiOnly then some s else none

/-- The code point of a literal inside brackets. -/
def literalCode? (f : Flags) (l : Literal) : Option Nat :=
  if f.unicode || l.byte || l.char.toNat < 128 then some l.char.toNat else none

/-- The characters a set pattern stands for. -/
def toClass? (f : Flags) : SetPattern → Option CharClass
  | .empty => some .nothing
  | .literal l => do
    let n ← literalCode? f l
    return .ranges [(n, n)]
  | .range a b => do
    let n ← literalCode? f a
    let m ← literalCode? f b
    return .ranges [(n, m)]
  | .short k negated => negateWhere? f negated (.ranges (k.ranges f.unicode))
  | .ascii k negated => negateWhere? f negated (foldWhere f (.ranges k.ranges))
  | .property q negated =>
    if f.unicode then do
      let rs ← q.ranges?
      negateWhere? f negated (foldWhere f (.ranges rs))
    else none
  | .join s t => do
    let a ← toClass? f s
    let b ← toClass? f t
    return .union a b
  | .bracketed s negated => do
    let a ← toClass? f s
    negateWhere? f negated (foldWhere f a)
  | .op kind s t => do
    let a := foldWhere f (← toClass? f s)
    let b := foldWhere f (← toClass? f t)
    match kind with
    | .intersection => return .inter a b
    | .difference => return .diff a b
    | .symmetricDifference => return .symmDiff a b

def isJoin : SetPattern → Bool
  | .join _ _ => true
  | _ => false

/-- How deep brackets, joined parts and operations are nested. A row of parts counts once. -/
def depth : SetPattern → Nat
  | .join s t => max (s.depth + 1) (if t.isJoin then t.depth else t.depth + 1)
  | .bracketed s _ => s.depth + 1
  | .op _ s t => max s.depth t.depth + 1
  | _ => 0

end SetPattern

namespace Pattern

def assertionLook (f : Flags) : AssertionPattern → Look
  | .caret => if f.multiLine then (if f.crlf then .lineStartCrlf else .lineStart) else .textStart
  | .dollar => if f.multiLine then (if f.crlf then .lineEndCrlf else .lineEnd) else .textEnd
  | .textStart => .textStart
  | .textEnd => .textEnd
  | .word kind => .word kind (!f.unicode)

/-- The expression for one literal outside brackets. -/
def literalRegex? (f : Flags) (l : Literal) : Option Regex :=
  if !f.unicode && l.byte && 128 ≤ l.char.toNat then none
  else some (.chars (SetPattern.foldWhere f (.single l.char)))

/-- What the dot matches: any character, or any that does not end a line. -/
def dotClass (f : Flags) : CharClass :=
  if f.dotAll then .any
  else if f.crlf then .compl (.ranges [(10, 10), (13, 13)])
  else .compl (.ranges [(10, 10)])

/-- The expression a pattern stands for under the given flags, with the flags in force after it. Flags
set inside a group end with the group. -/
def toRegexWith? (f : Flags) : Pattern → Option (Regex × Flags)
  | .empty => some (.empty, f)
  | .flags items => some (.empty, f.setAll items)
  | .literal l => do
    let r ← literalRegex? f l
    return (r, f)
  | .dot => if f.unicode then some (.chars (dotClass f), f) else none
  | .assertion a => some (.look (assertionLook f a), f)
  | .set s => do
    let c ← s.toClass? f
    return (.chars c, f)
  | .loop p min max => do
    let (r, f) ← toRegexWith? f p
    return (.loop r min max, f)
  | .group items p => do
    let (r, _) ← toRegexWith? (f.setAll items) p
    return (r, f)
  | .alt p q => do
    let (r, f) ← toRegexWith? f p
    let (s, f) ← toRegexWith? f q
    return (.alt r s, f)
  | .cat p q => do
    let (r, f) ← toRegexWith? f p
    let (s, f) ← toRegexWith? f q
    return (.andThen r s, f)

/-- The expression a pattern stands for. -/
def toRegex? (p : Pattern) : Option Regex := (toRegexWith? {} p).map (·.1)

def isAlt : Pattern → Bool
  | .alt _ _ => true
  | _ => false

def isCat : Pattern → Bool
  | .cat _ _ => true
  | _ => false

/-- How deep groups, repetitions, rows and sets are nested. A row counts once, however long it is. -/
def depth : Pattern → Nat
  | .set s => s.depth
  | .loop p _ _ => p.depth + 1
  | .group _ p => p.depth + 1
  | .alt p q => max (p.depth + 1) (if q.isAlt then q.depth else q.depth + 1)
  | .cat p q => max (p.depth + 1) (if q.isCat then q.depth else q.depth + 1)
  | _ => 0

/-- The deepest nesting that is accepted. -/
def maxDepth : Nat := 250

end Pattern

end Turnstile
