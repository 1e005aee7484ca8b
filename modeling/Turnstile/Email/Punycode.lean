/-!
Characters of all scripts in letters, digits and hyphens: the ASCII characters of a text come first, then
each other character in the order of its code as the distance from the one before it, counted over all
places of all codes between. A distance is a number with digits of changing weight, the lowest first.
-/

namespace Turnstile.Punycode

/-- The digits: `a` to `z`, then `0` to `9`. -/
def digitChar (d : Nat) : Char := Char.ofNat (if d < 26 then 97 + d else 22 + d)

def digitValue? (c : Char) : Option Nat :=
  if c.isLower then some (c.toNat - 97)
  else if c.isUpper then some (c.toNat - 65)
  else if c.isDigit then some (c.toNat - 22)
  else none

/-- The largest number that may come up. -/
def limit : Nat := 4294967295

/-- A digit below the threshold of its place ends a number. Places count in steps of 36. -/
def threshold (place bias : Nat) : Nat := min 26 (max 1 (place - bias))

theorem one_le_threshold (place bias : Nat) : 1 ≤ threshold place bias := by
  unfold threshold; omega

/-- Divide a distance until it is small, and count the places. -/
def shrink (distance place : Nat) : Nat × Nat :=
  if 455 < distance then shrink (distance / 35) (place + 36) else (distance, place)
termination_by distance
decreasing_by exact Nat.div_lt_self (by omega) (by omega)

/-- The bias after a distance, from how many characters there are with the new one. It foresees a
distance like this one, scaled down by much after the first. -/
def adapt (distance count : Nat) (isFirst : Bool) : Nat :=
  let scaled := if isFirst then distance / 700 else distance / 2
  let (rest, place) := shrink (scaled + scaled / count) 0
  place + 36 * rest / (rest + 38)

/-- The digits of a distance from the given place on. -/
def digits (bias place n : Nat) : List Char :=
  let t := threshold place bias
  if n < t then [digitChar n]
  else digitChar (t + (n - t) % (36 - t)) :: digits bias (place + 36) ((n - t) / (36 - t))
termination_by n
decreasing_by
  have := one_le_threshold place bias
  exact Nat.lt_of_le_of_lt (Nat.div_le_self _ _) (by omega)

/-- What has been written: the digits, the distance run up since the last character, the bias, and how
many characters are done. -/
structure Writing where
  written : List Char
  distance : Nat
  bias : Nat
  done : Nat

/-- Pass one character of the text while those of the given code are written. -/
def Writing.pass (code basics : Nat) (w : Writing) (c : Char) : Writing :=
  if c.toNat < code then { w with distance := w.distance + 1 }
  else if c.toNat = code then
    ⟨w.written ++ digits w.bias 36 w.distance, 0,
      adapt w.distance (w.done + 1) (w.done = basics), w.done + 1⟩
  else w

/-- Write the characters of one code after another; `next` is the code after the last one written. -/
def writeCodes (text : List Char) (basics : Nat) : List Nat → Nat → Writing → Writing
  | [], _, w => w
  | code :: rest, next, w =>
    let start := { w with distance := w.distance + (code - next) * (w.done + 1) }
    let after := text.foldl (Writing.pass code basics) start
    writeCodes text basics rest (code + 1) { after with distance := after.distance + 1 }

/-- The text in ASCII. -/
def encode (text : List Char) : List Char :=
  let basics := text.filter (·.toNat < 128)
  let codes := ((text.filter (128 ≤ ·.toNat)).map Char.toNat).mergeSort.eraseDups
  let after := writeCodes text basics.length codes 128 ⟨[], 0, 72, basics.length⟩
  basics ++ (if basics.isEmpty then [] else ['-']) ++ after.written

/-- Read a number from the given place on, and what follows it. -/
def readNumber (bias : Nat) : Nat → Nat → Nat → List Char → Option (Nat × List Char)
  | _, _, _, [] => none
  | place, weight, sum, c :: rest => do
    let d ← digitValue? c
    let t := threshold place bias
    if limit < sum + d * weight then none
    else if d < t then some (sum + d * weight, rest)
    else if limit < weight * (36 - t) then none
    else readNumber bias (place + 36) (weight * (36 - t)) (sum + d * weight) rest

theorem readNumber_length {bias : Nat} {place weight sum : Nat} {cs rest : List Char} {n : Nat}
    (h : readNumber bias place weight sum cs = some (n, rest)) : rest.length < cs.length := by
  induction cs generalizing place weight sum with
  | nil => simp [readNumber] at h
  | cons c cs ih =>
    simp only [readNumber, Option.bind_eq_bind, Option.bind_eq_some_iff] at h
    obtain ⟨d, -, h⟩ := h
    split at h
    · simp at h
    · split at h
      · simp only [Option.some.injEq, Prod.mk.injEq] at h
        simp [← h.2]
      · split at h
        · simp at h
        · have := ih h
          simp only [List.length_cons]; omega

/-- The character of a code. -/
def charOf? (n : Nat) : Option Char :=
  if n.isValidChar then some (Char.ofNat n) else none

/-- Put characters into the text as long as there are numbers; `start` is the place after the last one
put in, and `code` its code. -/
def readCodes (bias code start : Nat) (text cs : List Char) : Option (List Char) :=
  if cs.isEmpty then some text
  else
    match h : readNumber bias 36 1 start cs with
    | none => none
    | some (sum, rest) =>
      have : rest.length < cs.length := readNumber_length h
      let count := text.length + 1
      match charOf? (code + sum / count) with
      | none => none
      | some c =>
        readCodes (adapt (sum - start) count (start = 0)) (code + sum / count) (sum % count + 1)
          (text.insertIdx (sum % count) c) rest
termination_by cs.length

/-- Divide at the last hyphen, which is none when nothing stands before it. -/
def splitLast (cs : List Char) : List Char × List Char :=
  let tail := (cs.reverse.takeWhile (· ≠ '-')).reverse
  let front := (cs.take (cs.length - tail.length)).dropLast
  if front.isEmpty then ([], cs) else (front, tail)

/-- The text of its form in ASCII. -/
def decode? (cs : List Char) : Option (List Char) :=
  let (basics, numbers) := splitLast cs
  if basics.all (·.toNat < 128) then readCodes 72 128 0 basics numbers else none

end Turnstile.Punycode
