import Turnstile.Digest.Blake2b

/-!
The blocks of memory that Argon2 fills: 128 words, seen as a square of eight by eight pairs. Two blocks
are joined by mixing the rows of their difference, then its columns.
-/

namespace Turnstile.Argon2

structure Pair where
  low : UInt64
  high : UInt64

/-- Eight of anything. -/
structure Eight (α : Type) where
  a0 : α
  a1 : α
  a2 : α
  a3 : α
  a4 : α
  a5 : α
  a6 : α
  a7 : α

namespace Eight

@[inline] def map {α β : Type} (f : α → β) (x : Eight α) : Eight β :=
  ⟨f x.a0, f x.a1, f x.a2, f x.a3, f x.a4, f x.a5, f x.a6, f x.a7⟩

@[inline] def zipWith {α β γ : Type} (f : α → β → γ) (x : Eight α) (y : Eight β) : Eight γ :=
  ⟨f x.a0 y.a0, f x.a1 y.a1, f x.a2 y.a2, f x.a3 y.a3, f x.a4 y.a4, f x.a5 y.a5, f x.a6 y.a6,
    f x.a7 y.a7⟩

def replicate {α : Type} (x : α) : Eight α := ⟨x, x, x, x, x, x, x, x⟩

def toList {α : Type} (x : Eight α) : List α := [x.a0, x.a1, x.a2, x.a3, x.a4, x.a5, x.a6, x.a7]

def ofFn {α : Type} (f : Nat → α) : Eight α := ⟨f 0, f 1, f 2, f 3, f 4, f 5, f 6, f 7⟩

/-- Rows become columns. -/
def transpose {α : Type} (x : Eight (Eight α)) : Eight (Eight α) :=
  ⟨x.map (·.a0), x.map (·.a1), x.map (·.a2), x.map (·.a3), x.map (·.a4), x.map (·.a5), x.map (·.a6),
    x.map (·.a7)⟩

end Eight

/-- The sum of two words and twice the product of their low halves. -/
@[inline] def addMultiplied (x y : UInt64) : UInt64 :=
  x + y + 2 * (x &&& 0xffffffff) * (y &&& 0xffffffff)

/-- Mix four words, and go on with them. -/
@[inline] def mix {α : Type} (a b c d : UInt64) (next : UInt64 → UInt64 → UInt64 → UInt64 → α) : α :=
  let a := addMultiplied a b
  let d := d ^^^ a
  let d := d >>> 32 ||| d <<< 32
  let c := addMultiplied c d
  let b := b ^^^ c
  let b := b >>> 24 ||| b <<< 40
  let a := addMultiplied a b
  let d := d ^^^ a
  let d := d >>> 16 ||| d <<< 48
  let c := addMultiplied c d
  let b := b ^^^ c
  let b := b >>> 63 ||| b <<< 1
  next a b c d

/-- Mix sixteen words, seen as a square of four by four: first its columns, then its diagonals. -/
def permute (x : Eight Pair) : Eight Pair :=
  mix x.a0.low x.a2.low x.a4.low x.a6.low fun v0 v4 v8 v12 =>
  mix x.a0.high x.a2.high x.a4.high x.a6.high fun v1 v5 v9 v13 =>
  mix x.a1.low x.a3.low x.a5.low x.a7.low fun v2 v6 v10 v14 =>
  mix x.a1.high x.a3.high x.a5.high x.a7.high fun v3 v7 v11 v15 =>
  mix v0 v5 v10 v15 fun v0 v5 v10 v15 =>
  mix v1 v6 v11 v12 fun v1 v6 v11 v12 =>
  mix v2 v7 v8 v13 fun v2 v7 v8 v13 =>
  mix v3 v4 v9 v14 fun v3 v4 v9 v14 =>
  ⟨⟨v0, v1⟩, ⟨v2, v3⟩, ⟨v4, v5⟩, ⟨v6, v7⟩, ⟨v8, v9⟩, ⟨v10, v11⟩, ⟨v12, v13⟩, ⟨v14, v15⟩⟩

/-- A block. -/
structure Block where
  rows : Eight (Eight Pair)

namespace Block

def zero : Block := ⟨.replicate (.replicate ⟨0, 0⟩)⟩

/-- Where two blocks differ. -/
def xor (x y : Block) : Block :=
  ⟨x.rows.zipWith
    (fun r s => r.zipWith (fun p q => ⟨p.low ^^^ q.low, p.high ^^^ q.high⟩) s) y.rows⟩

/-- Join two blocks. -/
def join (x y : Block) : Block :=
  let difference := x.xor y
  difference.xor ⟨((difference.rows.map permute).transpose.map permute).transpose⟩

/-- The first word. -/
def head (x : Block) : UInt64 := x.rows.a0.a0.low

/-- All words in order. -/
def words (x : Block) : List UInt64 :=
  x.rows.toList.flatMap fun row => row.toList.flatMap fun p => [p.low, p.high]

def ofWords (words : Array UInt64) : Block :=
  ⟨.ofFn fun i => .ofFn fun j =>
    ⟨words.getD (16 * i + 2 * j) 0, words.getD (16 * i + 2 * j + 1) 0⟩⟩

def ofBytes (bytes : Bytes) : Block := ofWords (wordsOf bytes #[])
where
  /-- The words of bytes, behind the ones that are there. -/
  wordsOf : Bytes → Array UInt64 → Array UInt64
    | b0 :: b1 :: b2 :: b3 :: b4 :: b5 :: b6 :: b7 :: rest, words =>
      wordsOf rest (words.push (Blake2b.wordOf [b0, b1, b2, b3, b4, b5, b6, b7]))
    | _, words => words

def toBytes (x : Block) : Bytes := x.words.flatMap fun w => Blake2b.lowBytes w 8

end Block

end Turnstile.Argon2
