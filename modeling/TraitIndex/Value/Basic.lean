import TraitIndex.Number.Binary64
import TraitIndex.Value.Calendar

/-!
The values a JSON or YAML document can hold.

Mappings keep their fields in the order in which the keys first came; a later
value for the same key takes the place of the earlier one.
-/

namespace TraitIndex

open Number

/-- A document value.  `enclosing` stands where a collection contains itself,
and says whether that collection is a list. -/
inductive Value where
  | null
  | bool (value : Bool)
  | int (value : Int)
  | float (value : Binary64)
  | text (value : String)
  | date (value : Date)
  | time (value : Timestamp)
  | bytes (value : List UInt8)
  | list (items : List Value)
  | pair (first second : Value)
  | set (members : List Value)
  | mapping (fields : List (Value × Value))
  | enclosing (isList : Bool)
  deriving Repr, Inhabited

namespace Value

def kindName : Value → String
  | null => "NoneType"
  | bool _ => "bool"
  | int _ => "int"
  | float _ => "float"
  | text _ => "str"
  | date _ => "date"
  | time _ => "datetime"
  | bytes _ => "bytes"
  | list _ => "list"
  | pair _ _ => "tuple"
  | set _ => "set"
  | mapping _ => "dict"
  | enclosing isList => if isList then "list" else "dict"

/-- Whether a value counts as given: null, false, zeros and empty values do
not. -/
def isTruthy : Value → Bool
  | null => false
  | bool value => value
  | int value => value != 0
  | float value => !value.isZero
  | text value => !value.isEmpty
  | date _ => true
  | time _ => true
  | bytes value => !value.isEmpty
  | list items => !items.isEmpty
  | pair _ _ => true
  | set members => !members.isEmpty
  | mapping fields => !fields.isEmpty
  | enclosing _ => true

def isText : Value → Bool
  | text _ => true
  | _ => false

def text? : Value → Option String
  | text value => some value
  | _ => none

/-! ## Equality

Numbers are equal by value, whatever their type, and a truth value counts as the
number 0 or 1.
-/

def whole? : Value → Option Int
  | bool value => some (if value then 1 else 0)
  | int value => some value
  | _ => none

mutual

def equals : Value → Value → Bool
  | null, null => true
  | bool a, b => equalsWhole (if a then 1 else 0) b
  | int a, b => equalsWhole a b
  | float a, float b => a.same b
  | float a, b =>
      match b.whole? with
      | some number => a.equalsRatio (.ofInt number)
      | none => false
  | text a, text b => a == b
  | date a, date b => a == b
  | time a, time b => a.same b
  | bytes a, bytes b => a == b
  | list a, list b => equalsEach a b
  | pair a b, pair c d => equals a c && equals b d
  | set a, set b => a.length == b.length && membersIn a b
  | mapping a, mapping b => a.length == b.length && fieldsIn a b
  | enclosing a, enclosing b => a == b
  | _, _ => false
where
  equalsWhole (number : Int) : Value → Bool
    | float b => b.equalsRatio (.ofInt number)
    | b => b.whole? == some number

def equalsEach : List Value → List Value → Bool
  | [], [] => true
  | a :: as, b :: bs => equals a b && equalsEach as bs
  | _, _ => false

def membersIn : List Value → List Value → Bool
  | [], _ => true
  | a :: as, other => other.any (fun b => equals a b) && membersIn as other

def fieldsIn : List (Value × Value) → List (Value × Value) → Bool
  | [], _ => true
  | (key, value) :: rest, other =>
      other.any (fun field => equals key field.1 && equals value field.2) &&
        fieldsIn rest other

end

/-! ## Mappings -/

def assign (key value : Value) : List (Value × Value) → List (Value × Value)
  | [] => [(key, value)]
  | field :: rest =>
      if field.1.equals key then (field.1, value) :: rest
      else field :: assign key value rest

def ofFields (fields : List (Value × Value)) : Value :=
  mapping (fields.foldl (fun built field => assign field.1 field.2 built) [])

def field? (fields : List (Value × Value)) (name : String) : Option Value :=
  (fields.find? fun field =>
    match field.1 with
    | text key => key == name
    | _ => false).map (·.2)

def fieldOrNull (fields : List (Value × Value)) (name : String) : Value :=
  (field? fields name).getD null

end Value

end TraitIndex
