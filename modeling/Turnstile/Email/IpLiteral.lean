import Turnstile.Text.Integer

/-!
Addresses of the internet protocol as text: four decimal numbers, or up to eight hexadecimal groups of
which one run of zeros may be left out and the last two may be four decimal numbers.
-/

namespace Turnstile.IpLiteral

/-- A decimal number up to 255 without leading zeros. -/
def readOctet (cs : List Char) : Option (Nat × List Char) :=
  let digits := (cs.take 3).takeWhile Char.isDigit
  let rest := cs.drop digits.length
  let value := digits.foldl (fun n c => n * 10 + (c.toNat - 48)) 0
  let isLonger := digits.length = 3 ∧ (rest.head?.map Char.isDigit).getD false
  if digits.isEmpty ∨ isLonger ∨ 255 < value then none
  else if digits.head? = some '0' ∧ digits.length ≠ 1 then none
  else some (value, rest)

def isHexDigit (c : Char) : Bool :=
  c.isDigit || ('a' ≤ c && c ≤ 'f') || ('A' ≤ c && c ≤ 'F')

def hexValue (c : Char) : Nat :=
  if c.isDigit then c.toNat - 48
  else if c.toNat < 97 then c.toNat - 55
  else c.toNat - 87

/-- A group of one to four hexadecimal digits. -/
def readGroup (cs : List Char) : Option (Nat × List Char) :=
  let digits := (cs.take 4).takeWhile isHexDigit
  let rest := cs.drop digits.length
  let isLonger := digits.length = 4 ∧ (rest.head?.map isHexDigit).getD false
  if digits.isEmpty ∨ isLonger then none
  else some (digits.foldl (fun n c => n * 16 + hexValue c) 0, rest)

def readMark (mark : Char) : List Char → Option (List Char)
  | c :: rest => if c = mark then some rest else none
  | [] => none

/-- Four decimal numbers with dots between them. -/
def readVersion4 (cs : List Char) : Option (List Nat × List Char) := do
  let (a, cs) ← readOctet cs
  let (b, cs) ← readOctet (← readMark '.' cs)
  let (c, cs) ← readOctet (← readMark '.' cs)
  let (d, cs) ← readOctet (← readMark '.' cs)
  return ([a, b, c, d], cs)

/-- Up to `limit` groups with colons between them, of which the last two may be four decimal numbers.
`first` says that no colon stands before the next group. -/
def readGroups : Nat → Bool → List Char → List Nat × Bool × List Char
  | 0, _, cs => ([], false, cs)
  | limit + 1, first, cs =>
    let next := if first then some cs else readMark ':' cs
    let embedded := if limit = 0 then none else next.bind readVersion4
    match embedded with
    | some ([a, b, c, d], rest) => ([a * 256 + b, c * 256 + d], true, rest)
    | _ =>
      match next.bind readGroup with
      | some (g, rest) =>
        let (gs, isEmbedded, rest) := readGroups limit false rest
        (g :: gs, isEmbedded, rest)
      | none => ([], false, cs)

/-- Eight groups. -/
def readVersion6 (cs : List Char) : Option (List Nat × List Char) :=
  let (head, isEmbedded, rest) := readGroups 8 true cs
  if head.length = 8 then some (head, rest)
  else if isEmbedded then none
  else do
    let rest ← readMark ':' (← readMark ':' rest)
    let (tail, _, rest) := readGroups (7 - head.length) true rest
    return (head ++ List.replicate (8 - head.length - tail.length) 0 ++ tail, rest)

/-- The whole text is an address. -/
def isAddress (cs : List Char) : Bool :=
  match readVersion4 cs with
  | some (_, []) => true
  | _ =>
    match readVersion6 cs with
    | some (_, []) => true
    | _ => false

end Turnstile.IpLiteral
