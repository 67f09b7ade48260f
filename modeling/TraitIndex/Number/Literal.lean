import TraitIndex.Text.Blank
import TraitIndex.Text.Digit
import TraitIndex.Value.Fault

/-!
Numbers written as text on their own.

Blanks may surround a number.  Its digits may be those of any script, and single
bars may stand between the digits of a whole number.
-/

namespace TraitIndex.Number

/-- Blanks that may surround a number; the ASCII separators are not among
them. -/
def isNumberBlank (c : Char) : Bool :=
  Text.isBlank c && !(0x1C ≤ c.toNat && c.toNat ≤ 0x1F)

def trimBlanks (text : List Char) : List Char :=
  ((text.dropWhile isNumberBlank).reverse.dropWhile isNumberBlank).reverse

def asciiDigit (c : Char) : Char :=
  match Text.digitValue? c with
  | some digit => Char.ofNat (48 + digit)
  | none => c

def takeSign : List Char → Bool × List Char
  | '-' :: rest => (true, rest)
  | '+' :: rest => (false, rest)
  | text => (false, text)

def digitBelow? (base : Nat) (c : Char) : Option Nat :=
  (Text.hexValue? c).filter (· < base)

/-- The digits of a base that follow in a text, with single bars before each of
them. -/
def barredDigits (base : Nat) : List Char → List Nat × List Char
  | [] => ([], [])
  | c :: rest =>
      match digitBelow? base c with
      | some digit =>
          let (digits, after) := barredDigits base rest
          (digit :: digits, after)
      | none =>
          match c, rest.head?.bind (digitBelow? base) with
          | '_', some _ => barredDigits base rest
          | _, _ => ([], c :: rest)

def leadingDigits (base : Nat) (text : List Char) : List Nat × List Char :=
  if text.head? = some '_' then ([], text) else barredDigits base text

def baseLetter? (base : Nat) : Option Char :=
  if base = 16 then some 'x' else if base = 8 then some 'o'
  else if base = 2 then some 'b' else none

def dropBaseMark (base : Nat) (text : List Char) : List Char :=
  match text with
  | '0' :: letter :: rest =>
      if some letter.toLower = baseLetter? base then
        match rest with
        | '_' :: digits => digits
        | _ => rest
      else text
  | _ => text

def whole (base : Nat) (text : String) : Except ValueFault Int :=
  let (negative, unsigned) := takeSign (trimBlanks (text.toList.map asciiDigit))
  match leadingDigits base (dropBaseMark base unsigned) with
  | ([], _) => .error (.notWhole text base)
  | (digits, rest) =>
      if base = 10 && Value.digitLimit < digits.length then
        .error (.longLiteral digits.length)
      else if rest.isEmpty then
        let magnitude : Int := Text.ofDigits base digits
        .ok (if negative then -magnitude else magnitude)
      else .error (.notWhole text base)

def plainDigits (text : List Char) : List Char × List Char :=
  text.span Text.isAsciiDigit

/-- The exponent that takes up a text, zero for an empty one. -/
def exponent? (text : List Char) : Option Int :=
  match text with
  | [] => some 0
  | e :: rest =>
      if e = 'e' || e = 'E' then
        let (negative, unsigned) := takeSign rest
        match plainDigits unsigned with
        | ([], _) => none
        | (digits, []) =>
            let magnitude : Int :=
              Text.ofDigits 10 (digits.filterMap Text.hexValue?)
            some (if negative then -magnitude else magnitude)
        | _ => none
      else none

def unsignedFloat? (negative : Bool) (text : List Char) : Option Binary64 :=
  let name := String.ofList (text.map Char.toLower)
  if name = "inf" || name = "infinity" then some (.infinite negative)
  else if name = "nan" then some .nan
  else
    let (wholePart, rest) := plainDigits text
    let (fraction, rest) := match rest with
      | '.' :: more => plainDigits more
      | _ => ([], rest)
    if wholePart.isEmpty && fraction.isEmpty then none
    else
      let digits :=
        Text.ofDigits 10 ((wholePart ++ fraction).filterMap Text.hexValue?)
      (exponent? rest).map fun power => .ofDecimal negative digits
      (power - fraction.length)

def float (text : String) : Except ValueFault Binary64 :=
  let (negative, unsigned) := takeSign (trimBlanks (text.toList.map asciiDigit))
  match unsignedFloat? negative unsigned with
  | some number => .ok number
  | none => .error (.notNumber text)

end TraitIndex.Number
