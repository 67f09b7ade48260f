import TraitIndex.Text.Search
import TraitIndex.Yaml.Cursor

/-!
The types of YAML nodes, and the type a plain scalar has by its looks.
-/

namespace TraitIndex.Yaml

inductive Tag where
  | str
  | seq
  | map
  | null
  | bool
  | int
  | float
  | binary
  | timestamp
  | omap
  | pairs
  | set
  | merge
  | value
  | unknown
  deriving DecidableEq, Repr

def standardTags : String := "tag:yaml.org,2002:"

def Tag.ofName (name : String) : Tag :=
  match (Text.stripInitial? standardTags.toList name.toList).map String.ofList
    with
  | some "str" => str
  | some "seq" => seq
  | some "map" => map
  | some "null" => null
  | some "bool" => bool
  | some "int" => int
  | some "float" => float
  | some "binary" => binary
  | some "timestamp" => timestamp
  | some "omap" => omap
  | some "pairs" => pairs
  | some "set" => set
  | some "merge" => merge
  | some "value" => value
  | _ => unknown

/-! ## The looks of plain scalars -/

def isDigit (c : Char) : Bool := Text.isAsciiDigit c

def isDigitOrBar (c : Char) : Bool := isDigit c || c = '_'

def dropSign : List Char → List Char
  | '+' :: rest => rest
  | '-' :: rest => rest
  | text => text

def truthNames : List String := [
  "yes", "Yes", "YES", "true", "True", "TRUE", "on", "On", "ON"]

def falsehoodNames : List String := [
  "no", "No", "NO", "false", "False", "FALSE", "off", "Off", "OFF"]

def looksBool (text : List Char) : Bool :=
  (truthNames ++ falsehoodNames).contains (String.ofList text)

def looksNull (text : List Char) : Bool :=
  ["", "~", "null", "Null", "NULL"].contains (String.ofList text)

/-- A part of a number in base 60: one digit, or two of which the first is below
six. -/
def isSexagesimal : List Char → Bool
  | [a] => isDigit a
  | [a, b] => '0' ≤ a && a ≤ '5' && isDigit b
  | _ => false

def isNumeral : List Char → Bool
  | c :: rest => isDigit c && rest.all isDigitOrBar
  | [] => false

def isExponent : List Char → Bool
  | [] => true
  | e :: sign :: digits =>
      (e = 'e' || e = 'E') && (sign = '+' || sign = '-') && !digits.isEmpty &&
        digits.all isDigit
  | _ => false

def looksPointed (text : List Char) : Bool :=
  let (whole, rest) := (dropSign text).span (· != '.')
  match rest with
  | _ :: fraction =>
      isNumeral whole && isExponent (fraction.dropWhile isDigitOrBar)
  | [] => false

def looksFractional : List Char → Bool
  | '.' :: c :: rest => isDigit c && isExponent (rest.dropWhile isDigitOrBar)
  | _ => false

def looksPointedSexagesimal (text : List Char) : Bool :=
  let (whole, rest) := (dropSign text).span (· != '.')
  match rest, Text.splitAt ':' whole with
  | _ :: fraction, first :: part :: parts =>
      isNumeral first && (part :: parts).all isSexagesimal &&
        fraction.all isDigitOrBar
  | _, _ => false

def looksFloat (text : List Char) : Bool :=
  looksPointed text || looksFractional text || looksPointedSexagesimal text
    || [".inf", ".Inf", ".INF"].contains (String.ofList (dropSign text))
    || [".nan", ".NaN", ".NAN"].contains (String.ofList text)

def isBased (condition : Char → Bool) (digits : List Char) : Bool :=
  !digits.isEmpty && digits.all fun c => condition c || c = '_'

def looksInt (text : List Char) : Bool :=
  match dropSign text with
  | '0' :: 'b' :: digits => isBased (fun c => c = '0' || c = '1') digits
  | '0' :: 'x' :: digits => isBased (fun c => (Text.hexValue? c).isSome) digits
  | '0' :: digits => digits.all fun c => ('0' ≤ c && c ≤ '7') || c = '_'
  | numeral =>
      match Text.splitAt ':' numeral with
      | first :: parts => isNumeral first && parts.all isSexagesimal
      | [] => false

/-! ## The looks of dates -/

/-- Between `least` and `most` digits at the start of a text, as many as there
are. -/
def digitsBetween? (least most : Nat) (text : List Char) :
    Option (List Char × List Char) :=
  let digits := (text.takeWhile isDigit).take most
  if least ≤ digits.length then some (digits, text.drop digits.length) else none

def skipChar? (c : Char) : List Char → Option (List Char)
  | [] => none
  | first :: rest => if first = c then some rest else none

inductive Zone where
  | universal
  | ahead (hours minutes : List Char)
  | behind (hours minutes : List Char)
  deriving DecidableEq, Repr

structure Clock where
  hour : List Char
  minute : List Char
  second : List Char
  fraction : List Char
  zone : Option Zone
  deriving DecidableEq, Repr

structure TimestampText where
  year : List Char
  month : List Char
  day : List Char
  clock : Option Clock
  deriving DecidableEq, Repr

def isSpaceOrTab (c : Char) : Bool := c = ' ' || c = '\t'

def zoneOffset? (text : List Char) : Option (List Char × List Char) := do
  let (hours, rest) ← digitsBetween? 1 2 text
  match rest with
  | [] => return (hours, [])
  | ':' :: minutes =>
      let (digits, rest) ← digitsBetween? 2 2 minutes
      if rest.isEmpty then return (hours, digits) else none
  | _ => none

def zone? (text : List Char) : Option (Option Zone) :=
  match text with
  | [] => some none
  | _ =>
      match text.dropWhile isSpaceOrTab with
      | ['Z'] => some (some .universal)
      | '+' :: rest =>
          (zoneOffset? rest).map fun (hours, minutes) =>
            some (.ahead hours minutes)
      | '-' :: rest =>
          (zoneOffset? rest).map fun (hours, minutes) =>
            some (.behind hours minutes)
      | _ => none

def clock? (text : List Char) : Option Clock := do
  let (hour, rest) ← digitsBetween? 1 2 text
  let rest ← skipChar? ':' rest
  let (minute, rest) ← digitsBetween? 2 2 rest
  let rest ← skipChar? ':' rest
  let (second, rest) ← digitsBetween? 2 2 rest
  let (fraction, rest) := match rest with
    | '.' :: digits => digits.span isDigit
    | _ => ([], rest)
  let zone ← zone? rest
  return ⟨hour, minute, second, fraction, zone⟩

def dropSeparator? : List Char → Option (List Char)
  | [] => none
  | c :: rest =>
      if c = 'T' || c = 't' then some rest
      else if isSpaceOrTab c then some (rest.dropWhile isSpaceOrTab)
      else none

def timestampText? (text : List Char) : Option TimestampText := do
  let (year, rest) ← digitsBetween? 4 4 text
  let rest ← skipChar? '-' rest
  let (month, rest) ← digitsBetween? 1 2 rest
  let rest ← skipChar? '-' rest
  let (day, rest) ← digitsBetween? 1 2 rest
  if rest.isEmpty then return ⟨year, month, day, none⟩
  else
    let clock ← (dropSeparator? rest).bind clock?
    return ⟨year, month, day, some clock⟩

/-- A plain date needs both digits of its month and its day. -/
def looksTimestamp (text : List Char) : Bool :=
  match timestampText? text with
  | some found =>
      found.clock.isSome || (found.month.length = 2 && found.day.length = 2)
  | none => false

/-- The type of a plain scalar.  A line feed at its end does not count, unless
it is all there is. -/
def tagOfPlain (text : List Char) : Tag :=
  let text := if text = ['\n'] then text else Text.dropFinalLineFeed text
  if looksBool text then .bool
  else if looksFloat text then .float
  else if looksInt text then .int
  else if text = ['<', '<'] then .merge
  else if looksNull text then .null
  else if looksTimestamp text then .timestamp
  else if text = ['='] then .value
  else if ["!", "&", "*"].contains (String.ofList text) then .unknown
  else .str

end TraitIndex.Yaml
