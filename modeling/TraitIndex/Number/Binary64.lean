/-!
Binary floating-point numbers of double precision, held exactly.

A finite number is a sign, a whole mantissa and a power of two.  Every rational
rounds to the nearest number, halves to an even mantissa.  All arithmetic is
done on exact rationals and rounded once.
-/

namespace TraitIndex.Number

/-- A finite number is `mantissa * 2 ^ exponent`, with the mantissa below `2 ^
53` and the exponent the least one that allows it, but not below `-1074`. -/
inductive Binary64 where
  | finite (negative : Bool) (mantissa : Nat) (exponent : Int)
  | infinite (negative : Bool)
  | nan
  deriving DecidableEq, Repr, Inhabited

/-- A rational number as a sign and a quotient; the denominator is positive. -/
structure Ratio where
  negative : Bool
  numerator : Nat
  denominator : Nat
  deriving DecidableEq, Repr

namespace Ratio

def ofInt (value : Int) : Ratio :=
  ⟨value < 0, value.natAbs, 1⟩

def signedNumerator (r : Ratio) : Int :=
  if r.negative then -r.numerator else r.numerator

def ofSigned (numerator : Int) (denominator : Nat) : Ratio :=
  ⟨numerator < 0, numerator.natAbs, denominator⟩

def add (a b : Ratio) : Ratio :=
  ofSigned (a.signedNumerator * b.denominator + b.signedNumerator *
    a.denominator)
    (a.denominator * b.denominator)

def same (a b : Ratio) : Bool :=
  a.signedNumerator * b.denominator == b.signedNumerator * a.denominator

def truncate (r : Ratio) : Int :=
  let whole : Nat := r.numerator / r.denominator
  if r.negative then -whole else whole

def scaled (numerator denominator : Nat) (exponent : Int) : Nat × Nat :=
  if 0 ≤ exponent then (numerator * Nat.pow 2 exponent.toNat, denominator)
  else (numerator, denominator * Nat.pow 2 (-exponent).toNat)

end Ratio

namespace Binary64

def maxExponent : Int := 971

def minExponent : Int := -1074

def minMantissa : Nat := 4503599627370496

/-- The whole number nearest to a quotient, halves to the even one. -/
def nearestEven (numerator denominator : Nat) : Nat :=
  let whole := numerator / denominator
  let rest := numerator % denominator
  if 2 * rest < denominator then whole
  else if denominator < 2 * rest then whole + 1
  else if whole % 2 = 0 then whole else whole + 1

def exponentOf (numerator denominator : Nat) : Int :=
  let guess : Int :=
    (Nat.log2 numerator : Int) - (Nat.log2 denominator : Int) - 52
  let (n, d) := Ratio.scaled numerator denominator (-guess)
  if n / d < minMantissa then guess - 1
  else if 2 * minMantissa ≤ n / d then guess + 1
  else guess

def ofRatio (r : Ratio) : Binary64 :=
  if r.numerator = 0 then .finite r.negative 0 minExponent
  else
    let exponent := max (exponentOf r.numerator r.denominator) minExponent
    let (n, d) := Ratio.scaled r.numerator r.denominator (-exponent)
    let mantissa := nearestEven n d
    let (mantissa, exponent) :=
      if mantissa = 2 * minMantissa then (minMantissa, exponent + 1)
      else (mantissa, exponent)
    if maxExponent < exponent then .infinite r.negative
    else .finite r.negative mantissa exponent

/-- The number nearest to a decimal.  Beyond the powers of ten that can be told
from zero or from an infinity the power itself does not matter. -/
def ofDecimal (negative : Bool) (digits : Nat) (power : Int) : Binary64 :=
  if digits = 0 then .finite negative 0 minExponent
  else
    let magnitude : Int := power + (Nat.toDigits 10 digits).length
    if 400 < magnitude then .infinite negative
    else if magnitude < -400 then .finite negative 0 minExponent
    else if 0 ≤ power then
      ofRatio ⟨negative, digits * Nat.pow 10 power.toNat, 1⟩
    else ofRatio ⟨negative, digits, Nat.pow 10 (-power).toNat⟩

def ofInt (value : Int) : Binary64 :=
  ofRatio (.ofInt value)

def ratio? : Binary64 → Option Ratio
  | .finite negative mantissa exponent =>
      let (n, d) := Ratio.scaled mantissa 1 exponent
      some ⟨negative, n, d⟩
  | _ => none

def isZero : Binary64 → Bool
  | .finite _ mantissa _ => mantissa = 0
  | _ => false

def negate : Binary64 → Binary64
  | .finite negative mantissa exponent => .finite (!negative) mantissa exponent
  | .infinite negative => .infinite (!negative)
  | .nan => .nan

def add (a b : Binary64) : Binary64 :=
  match a.ratio?, b.ratio? with
  | some x, some y => ofRatio (x.add y)
  | none, some _ => a
  | some _, none => b
  | none, none => if a = b then a else .nan

def mul (a b : Binary64) : Binary64 :=
  match a, b with
  | .nan, _ => .nan
  | _, .nan => .nan
  | .infinite x, .infinite y => .infinite (x != y)
  | .infinite x, .finite y mantissa _ =>
      if mantissa = 0 then .nan else .infinite (x != y)
  | .finite x mantissa _, .infinite y =>
      if mantissa = 0 then .nan else .infinite (x != y)
  | .finite x m e, .finite y n f =>
      let (p, q) := Ratio.scaled (m * n) 1 (e + f)
      ofRatio ⟨x != y, p, q⟩

def equalsRatio (a : Binary64) (value : Ratio) : Bool :=
  match a.ratio? with
  | some x => x.same value
  | none => false

/-- Equality of numbers: the two zeros are equal, and a `nan` is taken to equal
itself. -/
def same (a b : Binary64) : Bool :=
  match a.ratio?, b.ratio? with
  | some x, some y => x.same y
  | none, none => a = b
  | _, _ => false

end Binary64

end TraitIndex.Number
