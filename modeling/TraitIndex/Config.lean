import TraitIndex.Host
import TraitIndex.Log
import TraitIndex.Number.Literal
import TraitIndex.Yaml.Decode

/-!
Configuration: where the documentation lies, how many fragments are expected,
and what is reported.

Settings come from a YAML file, and variables of the environment go before them.
A file that was named must be there; the usual one may be missing.
-/

namespace TraitIndex

structure Config where
  docsRoot : Path
  expected : Option Int
  logLevel : LogLevel
  deriving DecidableEq, Repr, Inhabited

namespace Config

def usualFile : String := "docindex.yaml"

/-- The settings in the text of a file; what counts as not given is no setting
at all. -/
def settingsOfText (path : Path) (text : Text.Pieces) :
    Except Fault (List (Value × Value)) :=
  match Yaml.decodeSettings text with
  | .error .malformed => .error (.config (.badText path.toText))
  | .error (.value fault) => .error (.value fault)
  | .error (.bytes fault) => .error (.file (.notText fault))
  | .error .endless => .error .recursion
  | .ok (.mapping fields) => .ok fields
  | .ok value =>
      if value.isTruthy then .error (.config (.notMapping path.toText))
      else .ok []

def settingsPath (named : String) : Path :=
  .ofText (Text.nameOr usualFile named)

def settings (tree : FileTree) (named : String) :
    Except Fault (List (Value × Value) × Log) := do
  let path := settingsPath named
  if ← (tree.contains path).mapError .file then
    let bytes ← (tree.readBytes path).mapError .file
    let fields ← settingsOfText path (Text.piecesOfBytes bytes)
    return (fields, [⟨.debug, "Loaded configuration from " ++ path.toText⟩])
  else if named = "" then return ([], [])
  else throw (.config (.missing path.toText))

/-- A setting: a variable, or a field of the file, or what is usual. -/
def setting (override : Option String) (fields : List (Value × Value))
    (name : String) (usual : Value) : Value :=
  match override with
  | some text => .text text
  | none => (Value.field? fields name).getD usual

def pathOfValue : Value → Except Fault Path
  | .text text => .ok (.ofText text)
  | value => .error (.notPath value.kindName)

def wholeOfBytes (bytes : List UInt8) : Option Int :=
  if bytes.all (· < 0x80) then
    (Number.whole 10
      (String.ofList (bytes.map fun byte => Char.ofNat byte.toNat))).toOption
  else none

/-- A whole number that a value stands for; a number with a fraction loses
it. -/
def wholeOfValue (value : Value) : Except Fault (Option Int) :=
  match value with
  | .bool truth => .ok (some (if truth then 1 else 0))
  | .int number => .ok (some number)
  | .float (.infinite _) => .error .infiniteCount
  | .float number => .ok (number.ratio?.map (·.truncate))
  | .text text => .ok (Number.whole 10 text).toOption
  | .bytes bytes => .ok (wholeOfBytes bytes)
  | _ => .ok none

/-- How many fragments are expected: nothing is said, or a number that is not
negative. -/
def expectedOfValue (value : Value) : Except Fault (Option Int) :=
  match value with
  | .null => .ok none
  | .text "" => .ok none
  | value => do
      match ← wholeOfValue value with
      | none =>
          if value.isShowable then .error (.config (.notWhole value.toQuoted))
          else .error (.value .longNumber)
      | some number =>
          if 0 ≤ number then return some number
          else if (Value.int number).isShowable then
            .error (.config (.negative number))
          else .error (.value .longNumber)

def upperLetter (c : Char) : Char :=
  if c = 'ı' then 'I' else c.toUpper

def levelOfValue (value : Value) : Except Fault LogLevel := do
  let text ← liftValue value.printed
  match LogLevel.ofName? (String.ofList (text.toList.map upperLetter)) with
  | some level => return level
  | none => throw (.config (.badLevel text))

def ofSettings (fields : List (Value × Value)) (environment : Environment) :
    Except Fault Config := do
  let docsRoot ←
    pathOfValue (setting environment.docsRoot fields "docs_root" (.text "docs"))
  let expected ← expectedOfValue
    (setting environment.expected fields "expected_fragments" .null)
  let logLevel ← levelOfValue
    (setting environment.logLevel fields "log_level" (.text "WARNING"))
  return ⟨docsRoot, expected, logLevel⟩

def load [Host] (tree : FileTree) (environment : Environment) (named : String) :
    Except Fault Config × Log :=
  if Host.isExhausted tree (settingsPath named) (.settings environment) then
    (.error .recursion, [])
  else
    match settings tree named with
    | .error fault => (.error fault, [])
    | .ok (fields, log) => (ofSettings fields environment, log)

end Config

end TraitIndex
