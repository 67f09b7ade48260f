import TraitIndex.Fault
import TraitIndex.Implementor.Fragment
import TraitIndex.Json.Decode
import TraitIndex.Yaml.Decode

/-!
Structured fragments: mappings from crates to descriptors.

A descriptor names its trait and its type itself.  Every descriptor makes a
record, also one that lacks either of them, so that a registry can count what it
drops.
-/

namespace TraitIndex.Structured

/-- The text of a field, or a stand-in when the field is missing or counts as
not given. -/
def textOr (fields : List (Value × Value)) (name standIn : String) :
    Except ValueFault String :=
  let value := Value.fieldOrNull fields name
  if value.isTruthy then value.printed else .ok standIn

/-- The record of a descriptor under a crate.  A descriptor that names no trait
gets the given one. -/
def recordOfDescriptor (crate defaultTrait : String) (descriptor : Value) :
    Except ValueFault Record :=
  match descriptor with
  | .mapping fields => do
      let traitName ← textOr fields "trait" defaultTrait
      let implementingType ← textOr fields "type" ""
      let owningCrate ← textOr fields "crate" crate
      let constraint ← textOr fields "where" ""
      let rendered ← textOr fields "text" ""
      return {
        traitName := .text traitName
        implementingType := .text implementingType
        owningCrate := .text owningCrate
        constraintText := .text constraint
        synthetic := .bool (Value.fieldOrNull fields "synthetic").isTruthy
        rendered := .text rendered }
  | _ => .ok (Record.blank crate)

/-- The descriptors under a key; a value that is no list is the only one. -/
def descriptorsOf : Value → List Value
  | .list descriptors => descriptors
  | descriptor => [descriptor]

def entryOfField (defaultTrait : String) (field : Value × Value) :
    Except ValueFault (String × List Record) := do
  let crate ← field.1.printed
  let records ← (descriptorsOf field.2).mapM
    (recordOfDescriptor crate defaultTrait)
  return (crate, records)

def ofValue (document : Value) (source defaultTrait : String) :
    Except Fault Fragment :=
  match document with
  | .mapping fields => do
      let entries ← liftValue (fields.mapM (entryOfField defaultTrait))
      return Fragment.ofRecords (Assoc.ofList entries) source
  | _ => .error (.format (.notMapping source))

/-- The name of the format that is JSON; every other name means YAML. -/
def jsonFormat : String := "json"

def decode (text source format : String) : Except Fault Value :=
  if format = jsonFormat then
    match Json.decode text with
    | .ok document => .ok document
    | .error (.malformed cause) =>
        .error (.format (.badText format source (.json cause)))
    | .error (.value fault) => .error (.value fault)
  else
    match Yaml.decodeDescriptors (.ofText text.toList) with
    | .ok document => .ok document
    | .error .malformed => .error (.format (.badText format source .yaml))
    | .error (.value fault) => .error (.value fault)
    | .error (.bytes fault) => .error (.file (.notText fault))
    | .error .endless => .error .recursion

def read (text source format : String) : Except Fault Fragment := do
  let document ← decode text source format
  ofValue document source ""

end TraitIndex.Structured
