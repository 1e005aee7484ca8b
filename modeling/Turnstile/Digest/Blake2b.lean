import Turnstile.Encoding.Base64

/-!
BLAKE2b without a key: digests of one to 64 bytes. The state of eight words takes in blocks of 128
bytes; the last block is filled up with zeros and marked.
-/

namespace Turnstile.Blake2b

/-- The word of the first eight bytes, least byte first. Missing bytes are zero. -/
def wordOf (bytes : Bytes) : UInt64 :=
  (bytes.take 8).foldr (fun b w => w <<< 8 ||| b.toUInt64) 0

/-- The low bytes of a word, least byte first. -/
def lowBytes (w : UInt64) : Nat → Bytes
  | 0 => []
  | n + 1 => w.toUInt8 :: lowBytes (w >>> 8) n

/-- The sixteen words of a block. -/
def blockWords (bytes : Bytes) : Array UInt64 :=
  Array.ofFn fun i : Fin 16 => wordOf (bytes.drop (8 * i.val))

def rotateRight (w n : UInt64) : UInt64 := w >>> n ||| w <<< (64 - n)

def start : Array UInt64 :=
  #[0x6a09e667f3bcc908, 0xbb67ae8584caa73b, 0x3c6ef372fe94f82b, 0xa54ff53a5f1d36f1,
    0x510e527fade682d1, 0x9b05688c2b3e6c1f, 0x1f83d9abfb41bd6b, 0x5be0cd19137e2179]

/-- The order in which each of ten rounds takes the words of a block. Two more rounds repeat the first
two orders. -/
def schedule : List (Array Nat) :=
  [#[0, 1, 2, 3, 4, 5, 6, 7, 8, 9, 10, 11, 12, 13, 14, 15],
    #[14, 10, 4, 8, 9, 15, 13, 6, 1, 12, 0, 2, 11, 7, 5, 3],
    #[11, 8, 12, 0, 5, 2, 15, 13, 10, 14, 3, 6, 7, 1, 9, 4],
    #[7, 9, 3, 1, 13, 12, 11, 14, 2, 6, 5, 10, 4, 0, 15, 8],
    #[9, 0, 5, 7, 2, 4, 10, 15, 14, 1, 11, 12, 6, 8, 3, 13],
    #[2, 12, 6, 10, 0, 11, 8, 3, 4, 13, 7, 5, 15, 14, 1, 9],
    #[12, 5, 1, 15, 14, 13, 4, 10, 0, 7, 6, 3, 9, 2, 8, 11],
    #[13, 11, 7, 14, 12, 1, 3, 9, 5, 0, 15, 4, 8, 6, 2, 10],
    #[6, 15, 14, 9, 11, 3, 0, 8, 12, 2, 13, 7, 1, 4, 10, 5],
    #[10, 2, 8, 4, 7, 6, 1, 5, 15, 11, 9, 14, 3, 12, 13, 0]]

def rounds : List (Array Nat) := schedule ++ schedule.take 2

/-- Mix two words of the block into four words of the working state. -/
def mix (v : Array UInt64) (a b c d : Nat) (x y : UInt64) : Array UInt64 :=
  let word := fun (v : Array UInt64) (i : Nat) => v.getD i 0
  let v := v.setIfInBounds a (word v a + word v b + x)
  let v := v.setIfInBounds d (rotateRight (word v d ^^^ word v a) 32)
  let v := v.setIfInBounds c (word v c + word v d)
  let v := v.setIfInBounds b (rotateRight (word v b ^^^ word v c) 24)
  let v := v.setIfInBounds a (word v a + word v b + y)
  let v := v.setIfInBounds d (rotateRight (word v d ^^^ word v a) 16)
  let v := v.setIfInBounds c (word v c + word v d)
  v.setIfInBounds b (rotateRight (word v b ^^^ word v c) 63)

/-- One round: first the columns of the working state, then its diagonals. -/
def round (block : Array UInt64) (v : Array UInt64) (order : Array Nat) : Array UInt64 :=
  let word := fun (i : Nat) => block.getD (order.getD i 0) 0
  let v := mix v 0 4 8 12 (word 0) (word 1)
  let v := mix v 1 5 9 13 (word 2) (word 3)
  let v := mix v 2 6 10 14 (word 4) (word 5)
  let v := mix v 3 7 11 15 (word 6) (word 7)
  let v := mix v 0 5 10 15 (word 8) (word 9)
  let v := mix v 1 6 11 12 (word 10) (word 11)
  let v := mix v 2 7 8 13 (word 12) (word 13)
  mix v 3 4 9 14 (word 14) (word 15)

/-- Take one block in. `taken` counts the bytes of the message up to the end of the block. -/
def compress (state : Array UInt64) (block : Bytes) (taken : Nat) (isLast : Bool) : Array UInt64 :=
  let v := state ++ start
  let v := v.setIfInBounds 12 (v.getD 12 0 ^^^ UInt64.ofNat taken)
  let v := if isLast then v.setIfInBounds 14 (v.getD 14 0 ^^^ 0xffffffffffffffff) else v
  let v := rounds.foldl (round (blockWords block)) v
  Array.ofFn fun i : Fin 8 => state.getD i 0 ^^^ v.getD i 0 ^^^ v.getD (i + 8) 0

/-- Take in what is left of a message. -/
def absorb (state : Array UInt64) (taken : Nat) (bytes : Bytes) : Array UInt64 :=
  if h : bytes.length ≤ 128 then compress state bytes (taken + bytes.length) true
  else absorb (compress state (bytes.take 128) (taken + 128) false) (taken + 128) (bytes.drop 128)
termination_by bytes.length
decreasing_by
  simp only [List.length_drop]
  omega

/-- The digest of a message, with the given number of bytes. -/
def digest (size : Nat) (message : Bytes) : Bytes :=
  let state := start.setIfInBounds 0 (start.getD 0 0 ^^^ 0x01010000 ^^^ UInt64.ofNat size)
  ((absorb state 0 message).toList.flatMap fun w => lowBytes w 8).take size

end Turnstile.Blake2b
