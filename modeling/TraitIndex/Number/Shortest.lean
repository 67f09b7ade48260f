import TraitIndex.Number.Binary64
import TraitIndex.Text.Digit

/-!
The shortest decimal that rounds to a given floating-point number.

For each count of digits the two decimals around the number are tried; the first
count at which one of them rounds back gives the digits.  Seventeen digits
always suffice.
-/

namespace TraitIndex.Number

def decimalMagnitude (numerator denominator : Nat) : Int :=
  if denominator ≤ numerator then
    ((Nat.toDigits 10 (numerator / denominator)).length : Int) - 1
  else
    -((Nat.toDigits 10 ((denominator - 1) / numerator)).length : Int)

def scaledByTen (numerator denominator : Nat) (power : Int) : Nat × Nat :=
  if 0 ≤ power then (numerator * Nat.pow 10 power.toNat, denominator)
  else (numerator, denominator * Nat.pow 10 (-power).toNat)

/-- The decimal of the given count of digits that rounds to the number, if there
is one: its digits as a whole number and the power of ten of the last digit.  Of
two candidates the nearer one is taken, and of equally near ones the even
one. -/
def decimalOfLength? (number : Binary64) (numerator denominator : Nat)
    (magnitude : Int) (count : Nat) : Option (Nat × Int) :=
  let power : Int := magnitude - ((count : Int) - 1)
  let (n, d) := scaledByTen numerator denominator (-power)
  let below := n / d
  let rest := n % d
  let works (digits : Nat) : Bool :=
    Binary64.ofDecimal false digits power == number
  let preferAbove := d < 2 * rest || (2 * rest = d && below % 2 = 1)
  let (first, second) := if preferAbove then (below + 1, below)
    else (below, below + 1)
  if works first then some (first, power)
  else if works second then some (second, power)
  else none

def shortestFrom (number : Binary64) (numerator denominator : Nat)
    (magnitude : Int) (count : Nat) : Nat → Nat × Int
  | 0 => (0, 0)
  | tries + 1 =>
      match decimalOfLength? number numerator denominator magnitude count with
      | some found => found
      | none =>
          shortestFrom number numerator denominator magnitude (count + 1) tries

/-- The digits of the shortest decimal, without trailing zeros, and the power of
ten of the first digit. -/
def shortestDecimal (mantissa : Nat) (exponent : Int) : List Char × Int :=
  let (numerator, denominator) := Ratio.scaled mantissa 1 exponent
  let magnitude := decimalMagnitude numerator denominator
  let (digits, power) :=
    shortestFrom (.finite false mantissa exponent) numerator denominator
      magnitude 1 17
  let written := Nat.toDigits 10 digits
  let kept := (written.reverse.dropWhile (· == '0')).reverse
  (kept, power + (written.length : Int) - 1)

/-- A decimal with its point in place: plain when the first digit stands between
the fifth place after the point and the sixteenth before it, with an exponent
otherwise. -/
def layOutDecimal (digits : List Char) (power : Int) : List Char :=
  if power < -4 || 16 ≤ power then
    let sign := if power < 0 then '-' else '+'
    let fraction := if digits.length ≤ 1 then [] else '.' :: digits.drop 1
    digits.take 1 ++ fraction ++ 'e' :: sign :: Text.paddedDigits 2 power.natAbs
  else if power < 0 then
    '0' :: '.' :: List.replicate (power.natAbs - 1) '0' ++ digits
  else
    let places := power.toNat + 1
    let whole :=
      digits.take places ++ List.replicate (places - digits.length) '0'
    let fraction := if digits.length ≤ places then ['0'] else digits.drop places
    whole ++ '.' :: fraction

def Binary64.toText : Binary64 → String
  | .nan => "nan"
  | .infinite negative => if negative then "-inf" else "inf"
  | .finite negative mantissa exponent =>
      let body :=
        if mantissa = 0 then ['0', '.', '0']
        else
          let (digits, power) := shortestDecimal mantissa exponent
          layOutDecimal digits power
      String.ofList (if negative then '-' :: body else body)

end TraitIndex.Number
