import Turnstile.Text.Case
import Turnstile.Text.Property

/-!
Regular expressions over characters, with assertions about the surroundings of a position, and the
search for a match anywhere in a text. The search follows partial derivatives: a finite list of
expressions that may still have to match stands for all ways to go on.
-/

namespace Turnstile

/-- A set of characters: ranges, and what set operations and case folding make of them. -/
inductive CharClass where
  | ranges (rs : Text.Ranges)
  | folded (s : CharClass)
  | compl (s : CharClass)
  | union (s t : CharClass)
  | inter (s t : CharClass)
  | diff (s t : CharClass)
  | symmDiff (s t : CharClass)
  deriving DecidableEq, Repr

namespace CharClass

/-- Membership by code point. A folded class holds every case form of its members. -/
def contains : CharClass → Nat → Bool
  | .ranges rs, n => rs.contains n
  | .folded s, n => (Text.caseForms n).any s.contains
  | .compl s, n => !s.contains n
  | .union s t, n => s.contains n || t.contains n
  | .inter s t, n => s.contains n && t.contains n
  | .diff s t, n => s.contains n && !t.contains n
  | .symmDiff s t, n => s.contains n != t.contains n

def nothing : CharClass := .ranges []

def any : CharClass := .ranges [(0, Text.Ranges.top)]

def single (c : Char) : CharClass := .ranges [(c.toNat, c.toNat)]

def range (a b : Char) : CharClass := .ranges [(a.toNat, b.toNat)]

/-- The code points of the class as ranges. -/
def toRanges : CharClass → Text.Ranges
  | .ranges rs => Text.Ranges.ofList rs
  | .folded s =>
    let rs := s.toRanges
    let forms := Text.foldRuns.flatMap fun run =>
      (List.range run.count).flatMap fun k =>
        let n := run.first + k * run.step
        let all := Text.caseForms n
        if all.any rs.contains then all.map fun m => (m, m) else []
    Text.Ranges.ofList (rs ++ forms)
  | .compl s => s.toRanges.complement
  | .union s t => s.toRanges.union t.toRanges
  | .inter s t => s.toRanges.inter t.toRanges
  | .diff s t => s.toRanges.diff t.toRanges
  | .symmDiff s t =>
    let rs := s.toRanges
    let ss := t.toRanges
    (rs.diff ss).union (ss.diff rs)

end CharClass

/-- What may be said of a position by the words around it. -/
inductive WordLook where
  | boundary | inside | start | finish | startHalf | finishHalf
  deriving DecidableEq, Repr

/-- Assertions about a position. A word assertion looks at ASCII words only, or at words of every
script. -/
inductive Look where
  | textStart | textEnd
  | lineStart | lineEnd
  | lineStartCrlf | lineEndCrlf
  | word (kind : WordLook) (ascii : Bool)
  deriving DecidableEq, Repr

namespace Look

def isWord (ascii : Bool) : Option Char → Bool
  | .none => false
  | some c => if ascii then c.isAlphanum || c == '_' else Text.isWordChar c

/-- The assertion holds between the two characters, either of which may be missing. -/
def holds (l : Look) (before after : Option Char) : Bool :=
  match l with
  | .textStart => before.isNone
  | .textEnd => after.isNone
  | .lineStart => before.isNone || before == some '\n'
  | .lineEnd => after.isNone || after == some '\n'
  | .lineStartCrlf =>
    before.isNone || before == some '\n' || (before == some '\r' && after != some '\n')
  | .lineEndCrlf =>
    after.isNone || after == some '\r' || (after == some '\n' && before != some '\r')
  | .word kind ascii =>
    let b := isWord ascii before
    let a := isWord ascii after
    match kind with
    | .boundary => b != a
    | .inside => b == a
    | .start => !b && a
    | .finish => b && !a
    | .startHalf => !b
    | .finishHalf => !a

end Look

/-- Regular expressions. `loop r min max` repeats `r` at least `min` times and, where `max` is given,
at most that often. -/
inductive Regex where
  | empty
  | chars (s : CharClass)
  | look (l : Look)
  | cat (r s : Regex)
  | alt (r s : Regex)
  | loop (r : Regex) (min : Nat) (max : Option Nat)
  deriving DecidableEq, Repr

namespace Regex

/-- The expression matches nothing at all between the two characters. -/
def nullable (before after : Option Char) : Regex → Bool
  | .empty => true
  | .chars _ => false
  | .look l => l.holds before after
  | .cat r s => nullable before after r && nullable before after s
  | .alt r s => nullable before after r || nullable before after s
  | .loop r min _ => min == 0 || nullable before after r

/-- Put an expression in front of another. -/
def andThen (r s : Regex) : Regex :=
  match r with
  | .empty => s
  | r => .cat r s

/-- What may be left to match after the character `c`, the one before it being `before`. Turns of a
loop that match nothing may be taken before the turn that consumes `c`; they use up the minimum. -/
def residuals (before : Option Char) (c : Char) : Regex → List Regex
  | .empty => []
  | .chars s => if s.contains c.toNat then [.empty] else []
  | .look _ => []
  | .cat r s =>
    let first := (residuals before c r).map (andThen · s)
    if nullable before (some c) r then first ++ residuals before c s else first
  | .alt r s => residuals before c r ++ residuals before c s
  | .loop r min max =>
    if max == some 0 then []
    else
      let least := if nullable before (some c) r then 0 else min - 1
      let rest := Regex.loop r least (max.map (· - 1))
      (residuals before c r).map (andThen · rest)

/-- Some expression of `states`, or a fresh start of `r` here or later, matches. -/
def searchFrom (r : Regex) (before : Option Char) (states : List Regex) : List Char → Bool
  | [] => (r :: states).any (nullable before .none)
  | c :: rest =>
    let states := r :: states
    states.any (nullable before (some c)) ||
      searchFrom r (some c) (states.flatMap (residuals before c)).eraseDups rest

/-- The expression matches somewhere in the text. -/
def isMatch (r : Regex) (text : List Char) : Bool := searchFrom r .none [] text

end Regex

end Turnstile
