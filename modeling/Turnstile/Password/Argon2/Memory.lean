import Turnstile.Password.Argon2.Block

/-!
Argon2: hashing that takes memory. Memory is a table of blocks, a row for every lane. It is filled in
several passes; each new block joins the one before it and another one, which is picked by the data or
by the position alone. The rows are cut into four slices, and within a slice a lane looks only at
blocks of other lanes that are finished.
-/

namespace Turnstile.Argon2

/-- How the other block is picked: by the data, by the position, or by the position in the first half
of the first pass and by the data afterwards. -/
inductive Variant where
  | d
  | i
  | id
  deriving DecidableEq, Repr

namespace Variant

def number : Variant → Nat
  | .d => 0
  | .i => 1
  | .id => 2

/-- Blocks of this pass and slice are picked by the position. -/
def picksByPosition (v : Variant) (pass slice : Nat) : Bool :=
  match v with
  | .d => false
  | .i => true
  | .id => pass == 0 && slice < 2

end Variant

/-- Version 16 writes over the blocks of the pass before, version 19 joins them in. -/
inductive Version where
  | v16
  | v19
  deriving DecidableEq, Repr

def Version.number : Version → Nat
  | .v16 => 16
  | .v19 => 19

/-- What a hash costs, and the bytes that are mixed into it. -/
structure Params where
  /-- Memory in blocks of 1024 bytes. -/
  memory : Nat := 19456
  passes : Nat := 2
  lanes : Nat := 1
  extra : Bytes := []
  deriving DecidableEq, Repr

namespace Params

/-- The blocks of one lane in one slice. -/
def segment (p : Params) : Nat := p.memory / (4 * p.lanes)

/-- The blocks of one lane. -/
def columns (p : Params) : Nat := 4 * p.segment

/-- The blocks that are filled. -/
def blocks (p : Params) : Nat := p.lanes * p.columns

end Params

def number32 (n : Nat) : Bytes := Blake2b.lowBytes (UInt64.ofNat n) 4

/-- Bytes with their number before them. -/
def counted (bytes : Bytes) : Bytes := number32 bytes.length ++ bytes

/-- The digest of everything that goes into a hash. -/
def seed (variant : Variant) (version : Version) (p : Params) (size : Nat) (password salt : Bytes) :
    Bytes :=
  Blake2b.digest 64
    (number32 p.lanes ++ number32 size ++ number32 p.memory ++ number32 p.passes ++
      number32 version.number ++ number32 variant.number ++ counted password ++ counted salt ++
      number32 0 ++ counted p.extra)

/-- The first halves of so many digests, each of the one before, and behind them a digest for the bytes
that are left. -/
def stretch (message : Bytes) : Nat → Nat → Bytes
  | 0, size => Blake2b.digest size message
  | n + 1, size =>
    let digest := Blake2b.digest 64 message
    digest.take 32 ++ stretch digest n (size - 32)

/-- A digest of any size. -/
def longDigest (size : Nat) (message : Bytes) : Bytes :=
  stretch (number32 size ++ message) ((size + 31) / 32 - 2) size

/-- A place in the order in which memory is filled: a slice of one lane in one pass. -/
structure Segment where
  pass : Nat
  slice : Nat
  lane : Nat

/-- The words that pick blocks by position, 128 for every value of the counter. -/
def addressWords (variant : Variant) (p : Params) (s : Segment) (counter : Nat) : Array UInt64 :=
  let input := Block.ofWords
    (#[s.pass, s.lane, s.slice, p.blocks, p.passes, variant.number, counter].map UInt64.ofNat)
  (Block.join .zero (Block.join .zero input)).words.toArray

/-- The lane and the column of the block that a word picks for the block at the index in a segment.
The block before it is never picked, and of other lanes no block of the slice. -/
def pick (p : Params) (s : Segment) (index : Nat) (word : UInt64) : Nat × Nat :=
  let low := (word &&& 0xffffffff).toNat
  let high := (word >>> 32).toNat
  let lane := if s.pass = 0 ∧ s.slice = 0 then s.lane else high % p.lanes
  let finished := if s.pass = 0 then s.slice * p.segment else p.columns - p.segment
  let area :=
    if lane = s.lane then finished + index - 1
    else if index = 0 then finished - 1 else finished
  let back := area * (low * low / 4294967296) / 4294967296
  let first := if s.pass = 0 ∨ s.slice = 3 then 0 else (s.slice + 1) * p.segment
  (lane, (first + (area - 1 - back)) % p.columns)

/-- Fill so many blocks of a segment from the index on. -/
def fillFrom (variant : Variant) (version : Version) (p : Params) (s : Segment) :
    Nat → Nat → Array UInt64 → Array Block → Array Block
  | 0, _, _, memory => memory
  | count + 1, index, addresses, memory =>
    let byPosition := variant.picksByPosition s.pass s.slice
    let addresses :=
      if byPosition && (index % 128 == 0 || addresses.isEmpty) then
        addressWords variant p s (index / 128 + 1)
      else addresses
    let column := s.slice * p.segment + index
    let row := s.lane * p.columns
    let before := memory.getD (row + (if column = 0 then p.columns - 1 else column - 1)) .zero
    let word := if byPosition then addresses.getD (index % 128) 0 else before.head
    let (lane, picked) := pick p s index word
    let block := Block.join before (memory.getD (lane * p.columns + picked) .zero)
    let block :=
      if s.pass = 0 ∨ version = .v16 then block
      else block.xor (memory.getD (row + column) .zero)
    fillFrom variant version p s count (index + 1) addresses
      (memory.setIfInBounds (row + column) block)

/-- Fill a segment. The first two blocks of a lane are there from the start. -/
def fillSegment (variant : Variant) (version : Version) (p : Params) (memory : Array Block)
    (s : Segment) : Array Block :=
  let start := if s.pass = 0 ∧ s.slice = 0 then 2 else 0
  fillFrom variant version p s (p.segment - start) start #[] memory

/-- All segments in order. -/
def segments (p : Params) : List Segment :=
  (List.range p.passes).flatMap fun pass => (List.range 4).flatMap fun slice =>
    (List.range p.lanes).map fun lane => ⟨pass, slice, lane⟩

/-- Memory with the first two blocks of every lane. -/
def startMemory (p : Params) (seed : Bytes) : Array Block :=
  (List.range p.lanes).foldl (fun memory lane =>
    (List.range 2).foldl (fun memory column =>
      memory.setIfInBounds (lane * p.columns + column)
        (.ofBytes (longDigest 1024 (seed ++ number32 column ++ number32 lane)))) memory)
    (Array.replicate p.blocks .zero)

/-- The hash of a password. -/
def hash (variant : Variant) (version : Version) (p : Params) (size : Nat) (password salt : Bytes) :
    Bytes :=
  let memory := (segments p).foldl (fillSegment variant version p)
    (startMemory p (seed variant version p size password salt))
  let last := (List.range p.lanes).foldl (fun (block : Block) lane =>
    block.xor (memory.getD (lane * p.columns + (p.columns - 1)) .zero)) .zero
  longDigest size last.toBytes

end Turnstile.Argon2
