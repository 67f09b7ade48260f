import TraitIndex.Number.Literal
import TraitIndex.Text.LowerCase
import TraitIndex.Yaml.Tag

/-!
What scalars of the standard types stand for.

A type may be given to any text, so a text need not look like its type; then it
is read as far as it can be.
-/

namespace TraitIndex.Yaml

open Number

def liftFault {α : Type} (result : Except ValueFault α) :
    Except DecodeFault α :=
  result.mapError .value

def dropBars (text : List Char) : List Char :=
  text.filter (· != '_')

def sexagesimal : List Int → Int
  | [] => 0
  | digit :: rest => digit + 60 * sexagesimal rest

def unsignedInt (text : List Char) : Except ValueFault Int :=
  let whole (base : Nat) (digits : List Char) :=
    Number.whole base (String.ofList digits)
  match text with
  | [] => .error .emptyText
  | ['0'] => .ok 0
  | '0' :: 'b' :: digits => whole 2 digits
  | '0' :: 'x' :: digits => whole 16 digits
  | '0' :: _ => whole 8 text
  | _ =>
      if text.contains ':' then do
        let digits ← (Text.splitAt ':' text).mapM (whole 10)
        return sexagesimal digits.reverse
      else whole 10 text

def intOfText (text : List Char) : Except ValueFault Int :=
  match dropBars text with
  | [] => .error .emptyText
  | digits => do
      let number ← unsignedInt (takeSign digits).2
      return if (takeSign digits).1 then -number else number

/-- The sum of parts in base 60, the least significant one first; each product
and each sum is rounded. -/
def floatSexagesimal (total : Binary64) (weight : Nat) :
    List Binary64 → Except ValueFault Binary64
  | [] => .ok total
  | part :: rest =>
      match Binary64.ofInt weight with
      | .infinite _ => .error .beyondFloat
      | factor =>
          floatSexagesimal (total.add (part.mul factor)) (weight * 60) rest

def unsignedFloat (text : List Char) : Except ValueFault Binary64 :=
  if text = ".inf".toList then .ok (.infinite false)
  else if text = ".nan".toList then .ok .nan
  else if text.contains ':' then do
    let parts ← (Text.splitAt ':' text).mapM fun part => Number.float
      (String.ofList part)
    floatSexagesimal (.ofInt 0) 1 parts.reverse
  else Number.float (String.ofList text)

def namesNan (text : List Char) : Bool :=
  (takeSign (Text.lower (dropBars text))).2 = ".nan".toList

def floatOfText (text : List Char) : Except ValueFault Binary64 :=
  match Text.lower (dropBars text) with
  | [] => .error .emptyText
  | digits => do
      let number ← unsignedFloat (takeSign digits).2
      return if (takeSign digits).1 then number.negate else number

def boolOfText (text : List Char) : Except DecodeFault Bool :=
  let name := String.ofList (Text.lower text)
  if ["yes", "true", "on"].contains name then .ok true
  else if ["no", "false", "off"].contains name then .ok false
  else .error (.value (.notTruth name))

/-! ## Dates -/

def numberOf (digits : List Char) : Nat :=
  Text.ofDigits 10 (digits.filterMap Text.hexValue?)

/-- The first six digits of a fraction of a second, as microseconds. -/
def microseconds (fraction : List Char) : Nat :=
  let digits := fraction.take 6
  numberOf digits * Nat.pow 10 (6 - digits.length)

def Zone.offset : Zone → Int
  | universal => 0
  | ahead hours minutes => (numberOf hours * 60 + numberOf minutes : Nat) * 60
  | behind hours minutes =>
      -((numberOf hours * 60 + numberOf minutes : Nat) * 60 : Int)

def valueOfTimestamp (text : TimestampText) : Except CalendarFault Value :=
  let year := numberOf text.year
  let month := numberOf text.month
  let day := numberOf text.day
  match text.clock with
  | none => (Date.make year month day).map .date
  | some clock =>
      (Timestamp.make year month day (numberOf clock.hour)
        (numberOf clock.minute) (numberOf clock.second)
        (microseconds clock.fraction)
        (clock.zone.map Zone.offset)).map .time

def timestampOfText (text : List Char) : Except ValueFault Value :=
  match timestampText? (Text.dropFinalLineFeed text) with
  | none => .error (.noMember "NoneType" "groupdict")
  | some found => (valueOfTimestamp found).mapError .calendar

/-! ## Binary data -/

def base64Value? (c : Char) : Option Nat :=
  if 'A' ≤ c && c ≤ 'Z' then some (c.toNat - 65)
  else if 'a' ≤ c && c ≤ 'z' then some (c.toNat - 71)
  else if '0' ≤ c && c ≤ '9' then some (c.toNat + 4)
  else if c = '+' then some 62
  else if c = '/' then some 63
  else none

/-- The bytes of a base 64 text.  `place` counts the characters of the current
group of four, `left` holds the bits not yet used and `padding` the padding
characters in a row.  Other characters do not count. -/
def base64Bytes (place left padding : Nat) :
    List Char → Except DecodeFault (List UInt8)
  | [] => if place = 0 then .ok [] else .error .malformed
  | c :: rest =>
      if c = '=' then
        if 2 ≤ place && 4 ≤ place + padding + 1 then .ok []
        else base64Bytes place left
          (if 2 ≤ place then padding + 1 else padding) rest
      else
        match base64Value? c with
        | none => base64Bytes place left padding rest
        | some value =>
            if place = 0 then base64Bytes 1 value 0 rest
            else
              let bits := left * 64 + value
              let kept := 6 - 2 * place
              let byte := UInt8.ofNat (bits / Nat.pow 2 kept)
              (base64Bytes ((place + 1) % 4) (bits % Nat.pow 2 kept) 0 rest).map
              (byte :: ·)

def bytesOfText (text : List Char) : Except DecodeFault (List UInt8) :=
  if text.all fun c => c.toNat < 0x80 then base64Bytes 0 0 0 text
  else .error .malformed

/-! ## All types -/

def valueOfScalar (tag : Tag) (text : String) : Except DecodeFault Value :=
  let chars := text.toList
  match tag with
  | .str => .ok (.text text)
  | .null => .ok .null
  | .bool => (boolOfText chars).map .bool
  | .int => (liftFault (intOfText chars)).map .int
  | .float => (liftFault (floatOfText chars)).map .float
  | .binary => (bytesOfText chars).map .bytes
  | .timestamp => liftFault (timestampOfText chars)
  | _ => malformed

end TraitIndex.Yaml
