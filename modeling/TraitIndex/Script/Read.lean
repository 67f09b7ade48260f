import TraitIndex.Fault
import TraitIndex.Implementor.Fragment
import TraitIndex.Json.Decode
import TraitIndex.Markup.Plain
import TraitIndex.Script.Assignment

/-!
Reading fragment scripts.

A script lists, for each crate, descriptors of the types that implement one
trait.  The trait itself is not named in the script; whoever reads the script
knows it from where the script was found.
-/

namespace TraitIndex.Script

def typeOfDescriptor (fields : List (Value × Value)) :
    Except ValueFault String :=
  match Value.fieldOrNull fields "types" with
  | .list (first :: _) => first.printed
  | _ => .ok ""

def textOrEmpty (fields : List (Value × Value)) (name : String) :
    Except ValueFault String :=
  let value := Value.fieldOrNull fields name
  if value.isTruthy then value.printed else .ok ""

/-- The record of one descriptor.  A descriptor that is no object still makes a
record, which is then not valid. -/
def recordOfDescriptor (traitName crate : String) (descriptor : Value) :
    Except ValueFault Record :=
  match descriptor with
  | .mapping fields => do
      let implementingType ← typeOfDescriptor fields
      let rendered ← textOrEmpty fields "text"
      let constraint ← Markup.plainText rendered
      return {
        traitName := .text traitName
        implementingType := .text implementingType
        owningCrate := .text crate
        constraintText := .text constraint
        synthetic := .bool (Value.fieldOrNull fields "synthetic").isTruthy
        rendered := .text rendered }
  | _ => .ok { Record.blank crate with traitName := .text traitName }

def decodeLiteral (source : String) (literal : List Char) :
    Except Fault Value :=
  match Json.decodeChars literal with
  | .ok value => .ok value
  | .error (.malformed cause) => .error (.format (.badList source cause))
  | .error (.value fault) => .error (.value fault)

def entryOfAssignment (traitName source : String) (assignment : Assignment) :
    Except Fault (String × List Record) := do
  let crate ← decodeLiteral source assignment.crate
  let descriptors ← decodeLiteral source assignment.descriptors
  let descriptors ← liftValue descriptors.elements
  let records ← descriptors.mapM fun descriptor =>
    liftValue (recordOfDescriptor traitName crate.toText descriptor)
  return (crate.toText, records)

def marker : List Char := "var implementors".toList

/-- The fragment of a script for the given trait.  The last assignment to a
crate counts. -/
def read (text traitName : String) (source : String) :
    Except Fault Fragment := do
  if !Text.contains marker text.toList then
    throw (.format (.notFragment source))
  let entries ← (assignments text.toList).mapM
    (entryOfAssignment traitName source)
  return Fragment.ofRecords (Assoc.ofList entries) source

end TraitIndex.Script
