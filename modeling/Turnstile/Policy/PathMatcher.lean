import Turnstile.Regex.Compile
import Turnstile.Error

/-!
How the path of a request is compared with the path of a rule. Three of the four ways know wildcards:
`star` cuts the pattern at its first star; `colon` and `brace` turn placeholders for one segment and
the ending `/*` into a regular expression and search with it.
-/

namespace Turnstile

/-- Ways to compare a path with a pattern. -/
inductive PathMatcher where
  /-- Everything after the first `*` is free. -/
  | star
  /-- `:name` stands for one segment. -/
  | colon
  /-- Braces around a name stand for one segment. -/
  | brace
  /-- The path has to be the pattern. -/
  | exact
  deriving DecidableEq, Repr

namespace PathMatcher

/-- The configured name. -/
def name : PathMatcher → String
  | .star => "KeyMatch"
  | .colon => "KeyMatch2"
  | .brace => "KeyMatch3"
  | .exact => "Exact"

/-- The parts of a path between its slashes. -/
def segments : List Char → List (List Char)
  | [] => [[]]
  | c :: rest =>
    if c = '/' then [] :: segments rest
    else
      match segments rest with
      | first :: more => (c :: first) :: more
      | [] => [[c]]

/-- Put parts together with slashes. -/
def joinSegments : List (List Char) → List Char
  | [] => []
  | [s] => s
  | s :: rest => s ++ '/' :: joinSegments rest

/-- A star at the start of a segment stands for anything, so a dot is put before it. -/
def dotStar (segment : List Char) : List Char :=
  match segment with
  | '*' :: _ => '.' :: segment
  | _ => segment

/-- The expression for a non-empty segment. -/
def anySegment : List Char := "[^/]+".toList

/-- Replace what starts with a colon, up to the end of the segment. -/
def fillColon (segment : List Char) : List Char :=
  if segment.contains ':' then segment.takeWhile (· ≠ ':') ++ anySegment else segment

/-- Replace what stands between the first opening brace and the last closing one after it, braces
included. -/
def fillBrace (segment : List Char) : List Char :=
  let before := segment.takeWhile (· ≠ '\x7b')
  let inner := (segment.dropWhile (· ≠ '\x7b')).drop 1
  if inner.contains '\x7d' then
    before ++ anySegment ++ (inner.reverse.takeWhile (· ≠ '\x7d')).reverse
  else segment

/-- Apply `dotStar` to every segment that follows a slash. -/
def dotStars (pattern : List Char) : List Char :=
  match segments pattern with
  | first :: more => joinSegments (first :: more.map dotStar)
  | [] => []

/-- The regular expression for a path pattern, with one segment changed by `fill`. -/
def regexText (fill : List Char → List Char) (pattern : List Char) : List Char :=
  '^' :: (joinSegments ((segments (dotStars pattern)).map fill) ++ ['$'])

/-- The characters of a text that take up exactly so many UTF-8 bytes, if the text can be cut there. -/
def takeBytes? : Nat → List Char → Option (List Char)
  | 0, _ => some []
  | _ + 1, [] => none
  | n + 1, c :: rest =>
    if c.utf8Size ≤ n + 1 then (takeBytes? (n + 1 - c.utf8Size) rest).map (c :: ·) else none

def byteLength (cs : List Char) : Nat := cs.foldl (fun n c => n + c.utf8Size) 0

/-- Compare up to the first star. A path longer than that is cut there, which fails inside a
character. -/
def acceptsStar (pattern path : List Char) : Except Fault Bool :=
  if pattern.contains '*' then
    let fixed := pattern.takeWhile (· ≠ '*')
    let n := byteLength fixed
    if n < byteLength path then
      match takeBytes? n path with
      | some start => .ok (start == fixed)
      | none => .error .characterCut
    else .ok (path == fixed)
  else .ok (path == pattern)

/-- Search the path for the expression; an expression that cannot be used is a fault. -/
def acceptsRegex [SizeLimit] (expression path : List Char) : Except Fault Bool :=
  match Regex.compile expression with
  | .ok r => .ok (r.isMatch path)
  | .error _ => .error .patternUnusable

/-- The path of a request agrees with the path pattern of a rule. -/
def accepts [SizeLimit] (m : PathMatcher) (pattern path : String) : Except Fault Bool :=
  match m with
  | .star => acceptsStar pattern.toList path.toList
  | .colon => acceptsRegex (regexText fillColon pattern.toList) path.toList
  | .brace => acceptsRegex (regexText fillBrace pattern.toList) path.toList
  | .exact => .ok (path == pattern)

end PathMatcher

end Turnstile
