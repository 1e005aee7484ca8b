/-!
Random identifiers in the text form of version 4: 32 hexadecimal digits in five groups, of which one
digit names the version and two bits the variant. The other 122 bits are the number given.
-/

namespace Turnstile.Uuid

/-- Lower case hexadecimal digits of a number, filled up with zeros. -/
def hexDigits (count n : Nat) : List Char :=
  (List.range count).reverse.map fun i => Nat.digitChar (n >>> (4 * i) % 16)

/-- The number that `count` bits from the place `first` on make. -/
def bits (n first count : Nat) : Nat := n >>> first % (1 <<< count)

/-- The identifier made of 122 bits. -/
def ofBits (n : Nat) : String :=
  let tail := bits n 0 60
  let variant := 8 + bits n 60 2
  let third := bits n 62 12
  let head := bits n 74 48
  String.ofList
    (hexDigits 8 (head >>> 16) ++ '-' :: (hexDigits 4 (bits head 0 16) ++ '-' :: '4' ::
      (hexDigits 3 third ++ '-' :: (hexDigits 1 variant ++ hexDigits 3 (tail >>> 48) ++ '-' ::
        hexDigits 12 (bits tail 0 48)))))

end Turnstile.Uuid
