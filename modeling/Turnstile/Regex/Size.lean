import Turnstile.Regex.Reader

/-!
How much room an expression takes once compiled to automata over UTF-8 bytes, one for each direction
of reading. Repetitions are written out, so short patterns can be huge. The numbers are an estimate
from below: groups, literals that share their ends and the surroundings of an automaton are left out.
-/

namespace Turnstile

namespace Text.Ranges

/-- The part of the set between two bounds. -/
def between (lo hi : Nat) (rs : Ranges) : Ranges :=
  rs.filterMap fun (a, b) => if b < lo || hi < a then none else some (max a lo, min b hi)

/-- The blocks of `width` code points that one range meets: first block, last block, and the part of
the block covered, which is empty where all of it is. -/
def blocksOf (width : Nat) : Nat × Nat → List (Nat × Nat × Ranges)
  | (a, b) =>
    let p := a / width
    let q := b / width
    let piece := fun (k lo hi : Nat) =>
      if lo = 0 && hi + 1 = width then (k, k, []) else (k, k, [(lo, hi)])
    if p = q then [piece p (a % width) (b % width)]
    else
      piece p (a % width) (width - 1) ::
        ((if p + 1 < q then [(p + 1, q - 1, [])] else []) ++ [piece q 0 (b % width)])

/-- All blocks a set meets; parts of one block are put together, full neighbours become one entry. -/
def blocks (width : Nat) (rs : Ranges) : List (Nat × Nat × Ranges) :=
  ((rs.flatMap (blocksOf width)).foldl (fun acc e =>
    match acc, e with
    | (p, q, []) :: rest, (p', q', []) =>
      if q + 1 = p' then (p, q', []) :: rest else (p', q', []) :: acc
    | (p, q, part) :: rest, (p', q', part') =>
      if q = p' && !part.isEmpty && !part'.isEmpty then (p, q, part ++ part') :: rest
      else (p', q', part') :: acc
    | [], e => [e]) []).reverse

end Text.Ranges

namespace CharClass

open Text (Ranges)

/-- Bytes for one state. -/
def stateBytes : Nat := 32

/-- Bytes for one transition of a state. -/
def transitionBytes : Nat := 8

/-- Bytes for one way to go on without reading. -/
def alternateBytes : Nat := 4

/-- The distinct parts that the blocks of several sets leave over, and how many transitions lead
there. An empty part stands for a whole block. -/
def descend (width : Nat) (sets : List Ranges) : List Ranges × Nat :=
  let entries := sets.flatMap fun rs =>
    if rs.isEmpty then [(0, 63, [])] else rs.blocks width
  ((entries.map (·.2.2)).eraseDups, entries.length)

/-- The parts of a set that take one, two, three and four bytes for a character. -/
def byLength (rs : Ranges) : Ranges × Ranges × Ranges × Ranges :=
  (rs.between 0 0x7F, rs.between 0x80 0x7FF,
    rs.between 0x800 0xD7FF ++ rs.between 0xE000 0xFFFF, rs.between 0x10000 Ranges.top)

/-- The size of the automaton for a single character, or for a set of ASCII characters. -/
def plainSize? : Ranges → Option Nat
  | [(a, b)] =>
    if a = b then
      some (stateBytes * (if a < 0x80 then 1 else if a < 0x800 then 2 else
        if a < 0x10000 then 3 else 4))
    else if b < 128 then some (2 * stateBytes + transitionBytes)
    else none
  | rs => if rs.all (·.2 < 128) then some (2 * stateBytes + transitionBytes * rs.length) else none

/-- The size of the automaton that reads one character of the class from its UTF-8 bytes. Equal ends
of byte sequences are shared. -/
def forwardSize (s : CharClass) : Nat :=
  let rs := s.toRanges
  match plainSize? rs with
  | some n => n
  | none =>
    let (ones, twos, threes, fours) := byLength rs
    let nonEmpty := fun (rs : Ranges) => if rs.isEmpty then [] else [rs]
    let (a, aCount) := descend 262144 (nonEmpty fours)
    let (b3, b3Count) := descend 4096 (nonEmpty threes)
    let (b4, b4Count) := descend 4096 a
    let b := (b3 ++ b4).eraseDups
    let (c2, c2Count) := descend 64 (nonEmpty twos)
    let (c34, c34Count) := descend 64 b
    let c := (c2 ++ c34).eraseDups
    let last := c.foldl (fun n rs => n + max 1 rs.length) 0
    stateBytes * (2 + a.length + b.length + c.length) +
      transitionBytes * (ones.length + aCount + b3Count + b4Count + c2Count + c34Count + last)

/-- The sequences of byte ranges for one range of characters, with so many bytes after the first. -/
def sequences : Nat → Nat × Nat → List (List (Nat × Nat))
  | 0, ab => [[ab]]
  | k + 1, (a, b) =>
    -- Each of the bytes after the first holds six bits.
    let m := 1 <<< (6 * (k + 1))
    let p := a / m
    let q := b / m
    if p = q then (sequences k (a % m, b % m)).map ((p, p) :: ·)
    else
      let low := if a % m = 0 then [] else (sequences k (a % m, m - 1)).map ((p, p) :: ·)
      let high := if b % m = m - 1 then [] else (sequences k (0, b % m)).map ((q, q) :: ·)
      let p' := if a % m = 0 then p else p + 1
      let q' := if b % m = m - 1 then q + 1 else q
      let full := if p' < q' then [(p', q' - 1) :: List.replicate (k + 1) (0, 63)] else []
      low ++ full ++ high

/-- How many byte ranges of a row of sequences are not shared with the start of the one before. -/
def unshared (before : List (Nat × Nat)) : List (List (Nat × Nat)) → Nat
  | [] => 0
  | s :: rest =>
    let common := ((before.zip s).takeWhile fun (x, y) => x = y).length
    s.length - common + unshared s rest

/-- The size of the automaton that reads a character of the class from its last byte to its first.
Equal starts of byte sequences are shared. -/
def backwardSize (s : CharClass) : Nat :=
  let rs := s.toRanges
  match plainSize? rs with
  | some n => n
  | none =>
    let (ones, twos, threes, fours) := byLength rs
    let rows := [ones.flatMap (sequences 0), twos.flatMap (sequences 1),
      threes.flatMap (sequences 2), fours.flatMap (sequences 3)]
    rows.foldl (fun n row =>
      n + stateBytes * unshared [] row + alternateBytes * row.length) (2 * stateBytes)

end CharClass

namespace Regex

/-- An empty text may match, whatever stands around it. -/
def mayBeEmpty : Regex → Bool
  | .empty | .look _ => true
  | .chars _ => false
  | .cat r s => r.mayBeEmpty && s.mayBeEmpty
  | .alt r s => r.mayBeEmpty || s.mayBeEmpty
  | .loop r min _ => min == 0 || r.mayBeEmpty

def isAlt : Regex → Bool
  | .alt _ _ => true
  | _ => false

/-- Bytes that the automaton of an expression takes, where those of its classes take as many as the
function tells. -/
def byteSize (classSize : CharClass → Nat) : Regex → Nat
  | .empty | .look _ => CharClass.stateBytes
  | .chars s => classSize s
  | .cat r s => r.byteSize classSize + s.byteSize classSize
  | .alt r s => r.byteSize classSize + s.byteSize classSize +
      if s.isAlt then CharClass.alternateBytes
      else 2 * CharClass.stateBytes + 2 * CharClass.alternateBytes
  | .loop r min max =>
    let choice := CharClass.stateBytes + 2 * CharClass.alternateBytes
    let size := r.byteSize classSize
    match max with
    | none =>
      if min = 0 then
        if r.mayBeEmpty then size + 2 * choice + CharClass.stateBytes else size + choice
      else min * size + choice
    | some max => max * size + (max - min) * choice + CharClass.stateBytes

/-- The most bytes an automaton may take. -/
def byteLimit : Nat := 10485760

/-- Neither automaton of the expression takes more than the limit. -/
def isSmall (r : Regex) : Bool :=
  r.byteSize CharClass.forwardSize ≤ byteLimit && r.byteSize CharClass.backwardSize ≤ byteLimit

end Regex

end Turnstile
