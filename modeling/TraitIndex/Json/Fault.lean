import TraitIndex.Text.Blank
import TraitIndex.Value.Fault

/-!
Why a text is no JSON, and where.
-/

namespace TraitIndex.Json

inductive Complaint where
  | value
  | propertyName
  | comma
  | colon
  | extraData
  | unterminatedString
  | controlCharacter
  | escape
  | unicodeEscape
  | byteOrderMark
  deriving DecidableEq, Repr

def Complaint.wording : Complaint → String
  | value => "Expecting value"
  | propertyName => "Expecting property name enclosed in double quotes"
  | comma => "Expecting ',' delimiter"
  | colon => "Expecting ':' delimiter"
  | extraData => "Extra data"
  | unterminatedString => "Unterminated string starting at"
  | controlCharacter => "Invalid control character at"
  | escape => "Invalid \\escape"
  | unicodeEscape => "Invalid \\uXXXX escape"
  | byteOrderMark => "Unexpected UTF-8 BOM (decode using utf-8-sig)"

/-- A complaint and the number of characters before the place it is about. -/
structure Malformed where
  complaint : Complaint
  line : Nat
  column : Nat
  offset : Nat
  deriving DecidableEq, Repr

def Malformed.inText (text : List Char) (complaint : Complaint) (offset : Nat) :
    Malformed :=
  let before := text.take offset
  ⟨complaint, Text.lineFeeds before + 1, Text.lastLineLength before + 1, offset⟩

def Malformed.wording (fault : Malformed) : String :=
  fault.complaint.wording ++ ": line " ++ toString fault.line ++ " column "
    ++ toString fault.column
    ++ " (char " ++ toString fault.offset ++ ")"

inductive DecodeFault where
  | malformed (fault : Malformed)
  | value (fault : ValueFault)
  deriving DecidableEq, Repr

def DecodeFault.wording : DecodeFault → String
  | malformed fault => fault.wording
  | value fault => fault.wording

end TraitIndex.Json
