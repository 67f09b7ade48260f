import TraitIndex.Number.Shortest
import TraitIndex.Text.Quote
import TraitIndex.Text.Utf8
import TraitIndex.Value.Basic

/-!
Values as text.

A text shows as itself; inside a collection it stands in quotation marks.  A
whole number of more than 4300 digits is not shown at all.
-/

namespace TraitIndex

namespace Value

/-- The most digits a whole number may have to be read or shown in decimal. -/
def digitLimit : Nat := 4300

def quotedByte (mark : Char) (byte : UInt8) : List Char :=
  let c := Char.ofNat byte.toNat
  if c = mark || c = '\\' then ['\\', c]
  else if c = '\n' then ['\\', 'n']
  else if c = '\r' then ['\\', 'r']
  else if c = '\t' then ['\\', 't']
  else if 0x20 ≤ byte && byte < 0x7F then [c]
  else '\\' :: 'x' :: Text.hexDigits 2 byte.toNat

def quotedBytes (bytes : List UInt8) : String :=
  let mark := Text.quotationMark (bytes.map fun byte => Char.ofNat byte.toNat)
  String.ofList ('b' :: mark :: bytes.flatMap (quotedByte mark) ++ [mark])

mutual

def toQuoted : Value → String
  | null => "None"
  | bool value => if value then "True" else "False"
  | int value => toString value
  | float value => value.toText
  | text value => Text.quoted value
  | date value => value.toQuoted
  | time value => value.toQuoted
  | bytes value => quotedBytes value
  | list items => "[" ++ ", ".intercalate (quotedItems items) ++ "]"
  | pair first second => "(" ++ toQuoted first ++ ", " ++ toQuoted second ++ ")"
  | set members =>
      if members.isEmpty then "set()"
      else "\x7b" ++ ", ".intercalate (quotedItems members) ++ "\x7d"
  | mapping fields => "\x7b" ++ ", ".intercalate (quotedFields fields) ++ "\x7d"
  | enclosing isList => if isList then "[...]" else "\x7b...\x7d"

def quotedItems : List Value → List String
  | [] => []
  | item :: rest => toQuoted item :: quotedItems rest

def quotedFields : List (Value × Value) → List String
  | [] => []
  | (key, value) :: rest =>
      (toQuoted key ++ ": " ++ toQuoted value) :: quotedFields rest

end

def toText : Value → String
  | text value => value
  | date value => value.toText
  | time value => value.toText
  | value => value.toQuoted

mutual

def isShowable : Value → Bool
  | int value => value.natAbs < Nat.pow 10 digitLimit
  | list items => allShowable items
  | pair first second => isShowable first && isShowable second
  | set members => allShowable members
  | mapping fields => fieldsShowable fields
  | _ => true

def allShowable : List Value → Bool
  | [] => true
  | item :: rest => isShowable item && allShowable rest

def fieldsShowable : List (Value × Value) → Bool
  | [] => true
  | (key, value) :: rest =>
      isShowable key && isShowable value && fieldsShowable rest

end

mutual

def isEncodable : Value → Bool
  | text value => Text.isEncodable value
  | list items => allEncodable items
  | pair first second => isEncodable first && isEncodable second
  | set members => allEncodable members
  | mapping fields => fieldsEncodable fields
  | _ => true

def allEncodable : List Value → Bool
  | [] => true
  | item :: rest => isEncodable item && allEncodable rest

def fieldsEncodable : List (Value × Value) → Bool
  | [] => true
  | (key, value) :: rest =>
      isEncodable key && isEncodable value && fieldsEncodable rest

end

end Value

end TraitIndex
