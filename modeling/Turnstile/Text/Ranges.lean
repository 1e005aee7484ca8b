/-!
Sets of code points as lists of closed ranges in increasing order, and the operations on them.
-/

namespace Turnstile.Text

/-- Closed ranges of code points. The operations below keep them in increasing order, apart from
each other and not adjacent. -/
abbrev Ranges := List (Nat × Nat)

namespace Ranges

/-- The largest code point. -/
def top : Nat := 0x10FFFF

def contains (rs : Ranges) (n : Nat) : Bool := rs.any fun r => r.1 ≤ n && n ≤ r.2

/-- Join overlapping and adjacent neighbours of a list sorted by lower end. -/
def join : Ranges → Ranges
  | [] => []
  | [r] => [r]
  | (a, b) :: (c, d) :: rest =>
    if c ≤ b + 1 then join ((a, max b d) :: rest) else (a, b) :: join ((c, d) :: rest)
termination_by rs => rs.length

/-- Order ranges by lower end and join them; empty ranges are dropped. -/
def ofList (rs : List (Nat × Nat)) : Ranges :=
  join ((rs.filter fun r => r.1 ≤ r.2).mergeSort fun a b => a.1 ≤ b.1)

def union (rs ss : Ranges) : Ranges := ofList (rs ++ ss)

/-- The ranges of the code points from `start` on that lie in none of the given ranges. -/
def gaps (start : Nat) : Ranges → Ranges
  | [] => if start ≤ top then [(start, top)] else []
  | (a, b) :: rest => if start < a then (start, a - 1) :: gaps (b + 1) rest else gaps (b + 1) rest

def complement (rs : Ranges) : Ranges := gaps 0 rs

def inter (rs ss : Ranges) : Ranges := complement (union (complement rs) (complement ss))

def diff (rs ss : Ranges) : Ranges := inter rs (complement ss)

@[simp] theorem contains_nil (n : Nat) : contains [] n = false := rfl

@[simp] theorem contains_cons (r : Nat × Nat) (rs : Ranges) (n : Nat) :
    contains (r :: rs) n = ((r.1 ≤ n && n ≤ r.2) || contains rs n) := rfl

end Ranges

end Turnstile.Text
