import TraitIndex.Number.Literal

/-!
Counts among the parameters of a request.

A count is written in decimal digits, perhaps with a sign.  What is not quite
written so may still be tidied up: blanks around it, a plus, zeros in front,
zeros behind a point, and single underscores between digits do not count.
-/

namespace TraitIndex.Service

inductive ParameterFault where
  | notWhole
  | tooLong
  | negative
  deriving DecidableEq, Repr

def ParameterFault.kindName : ParameterFault → String
  | notWhole => "int_parsing"
  | tooLong => "int_parsing_size"
  | negative => "greater_than_equal"

def lengthLimit : Nat := 4300

/-- The number of plain digits with perhaps a minus before them; no zero stands
in front. -/
def plainWhole (text : List Char) : Except ParameterFault Int :=
  let negative := text.head? = some '-'
  let unsigned := if negative then text.drop 1 else text
  let digits := unsigned.takeWhile Text.isAsciiDigit
  let isWhole := digits.length = unsigned.length
  match digits with
  | [] => .error .notWhole
  | '0' :: more => if more.isEmpty && isWhole then .ok 0 else .error .notWhole
  | _ =>
      if lengthLimit < digits.length + (if negative then 1 else 0) then
        .error .tooLong
      else if isWhole then
        let magnitude : Int :=
          Text.ofDigits 10 (digits.filterMap Text.hexValue?)
        .ok (if negative then -magnitude else magnitude)
      else .error .notWhole

/-- A text without the zeros in front of its first other digit or, if there is
none, without all but the last of them. -/
def dropLeadingZeros (text : List Char) : Option (List Char) :=
  match text with
  | '0' :: _ =>
      let zeros := text.takeWhile fun c => c = '0' || c = '_'
      match text.drop zeros.length with
      | [] => some (zeros.drop (zeros.length - 1))
      | '.' :: rest => some (zeros.drop (zeros.length - 1) ++ '.' :: rest)
      | c :: rest => if Text.isAsciiDigit c then some (c :: rest) else none
  | c :: _ => if Text.isAsciiDigit c || c = '-' then some text else none
  | [] => none

def dropZeroFraction (text : List Char) : List Char :=
  let whole := text.takeWhile (· != '.')
  if (text.drop (whole.length + 1)).all (· = '0') then whole else text

/-- A text without its underscores, if they stand one by one inside of it. -/
def dropUnderscores (text : List Char) : List Char :=
  let isInside := text.head? != some '_' && text.getLast? != some '_'
  let isDouble := (text.zip (text.drop 1)).contains ('_', '_')
  if isInside && !isDouble then text.filter (· != '_') else text

def tidied? (text : List Char) : Option (List Char) :=
  let unsigned := match Number.trimBlanks text with
    | '+' :: '-' :: _ => none
    | '+' :: rest => some rest
    | text => some text
  (unsigned.bind dropLeadingZeros).map fun digits => dropUnderscores
  (dropZeroFraction digits)

def whole (text : String) : Except ParameterFault Int :=
  match plainWhole text.toList with
  | .error .notWhole =>
      match tidied? text.toList with
      | some tidied => plainWhole tidied
      | none => .error .notWhole
  | result => result

def count (text : String) : Except ParameterFault Int := do
  let number ← whole text
  if number < 0 then throw .negative else return number

end TraitIndex.Service
