import TraitIndex.Text.Quote
import TraitIndex.Value.Show

/-!
What can go wrong when a value is read, shown or used as something it is not.
-/

namespace TraitIndex

inductive ValueFault where
  /-- A whole number is written with more digits than are read. -/
  | longLiteral (digits : Nat)
  /-- A whole number has more digits than are shown. -/
  | longNumber
  | notWhole (text : String) (base : Nat)
  | notNumber (text : String)
  | notText (kind : String)
  | notTruth (text : String)
  /-- An escape names a character past the last code point. -/
  | badCharacter (code : Nat)
  | beyondFloat
  | calendar (fault : CalendarFault)
  /-- The first character of an empty text is asked for. -/
  | emptyText
  | notIterable (kind : String)
  | notSized (kind : String)
  /-- A value of this kind lacks a member. -/
  | noMember (kind : String) (member : String)
  /-- A value of this kind is no place of a sequence. -/
  | badIndex (sequence : String) (kind : String)
  | outOfRange (sequence : String)
  | hugeIndex
  | badSlice
  | zeroStep
  | noSuchItem
  | itemWithoutName
  | itemTooLong (parts : Nat)
  deriving DecidableEq, Repr

/-- How much of a text that is no whole number is shown, quotation marks and
all. -/
def ValueFault.shownLength : Nat := 200

def ValueFault.wording : ValueFault → String
  | longLiteral digits =>
      "Exceeds the limit (" ++ toString Value.digitLimit
        ++ " digits) for integer string conversion: "
        ++ "value has " ++ toString digits
        ++ " digits; use sys.set_int_max_str_digits() to increase the limit"
  | longNumber =>
      "Exceeds the limit (" ++ toString Value.digitLimit
        ++ " digits) for integer string conversion; "
        ++ "use sys.set_int_max_str_digits() to increase the limit"
  | notWhole text base =>
      "invalid literal for int() with base " ++ toString base ++ ": "
        ++ String.ofList ((Text.quoted text).toList.take shownLength)
  | notNumber text => "could not convert string to float: " ++ Text.quoted text
  | notText kind => "expected string or bytes-like object, got '" ++ kind ++ "'"
  | notTruth text => Text.quoted text
  | badCharacter code =>
      if code < 2147483648 then "chr() arg not in range(0x110000)"
      else "Python int too large to convert to C int"
  | beyondFloat => "int too large to convert to float"
  | calendar fault => fault.wording
  | emptyText => "string index out of range"
  | notIterable kind => "'" ++ kind ++ "' object is not iterable"
  | notSized kind => "object of type '" ++ kind ++ "' has no len()"
  | noMember kind member =>
      "'" ++ kind ++ "' object has no attribute '" ++ member ++ "'"
  | badIndex sequence kind =>
      sequence ++ " indices must be integers or slices, not " ++ kind
  | outOfRange sequence => sequence ++ " index out of range"
  | hugeIndex => "cannot fit 'int' into an index-sized integer"
  | badSlice =>
      "slice indices must be integers or None or have an __index__ method"
  | zeroStep => "slice step cannot be zero"
  | noSuchItem => ""
  | itemWithoutName =>
      "SidebarItem.__init__() missing 1 required positional argument: "
        ++ "'symbol_name'"
  | itemTooLong parts =>
      "SidebarItem.__init__() takes from 2 to 3 positional arguments but "
        ++ toString (parts + 1)
        ++ " were given"

/-- The text of a value, refused when a whole number in it is too long. -/
def Value.printed (value : Value) : Except ValueFault String :=
  if value.isShowable then .ok value.toText else .error .longNumber

def Value.elements : Value → Except ValueFault (List Value)
  | .list items => .ok items
  | .pair first second => .ok [first, second]
  | .set members => .ok members
  | .mapping fields => .ok (fields.map (·.1))
  | .text value => .ok (value.toList.map fun c => .text (String.singleton c))
  | .bytes value => .ok (value.map fun byte => .int byte.toNat)
  | .enclosing _ => .ok []
  | value => .error (.notIterable value.kindName)

end TraitIndex
