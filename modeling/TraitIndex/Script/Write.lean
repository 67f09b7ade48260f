import TraitIndex.Implementor.Fragment
import TraitIndex.Json.Encode
import TraitIndex.Markup.Reference

/-!
Writing fragment scripts.

A script is a header, one assignment for each crate and a footer that hands the
implementors to the page.  A record without markup of its own shows its
constraint, or a plain statement of the implementation.
-/

namespace TraitIndex.Script

def header : List Char := "(function() \x7bvar implementors = \x7b\x7d;".toList

def footer : List Char :=
  ("if (window.register_implementors) "
    ++ "\x7bwindow.register_implementors(implementors);\x7d"
    ++ " else \x7bwindow.pending_implementors = implementors;"
    ++ "\x7d\x7d)()").toList

/-- The plain text for a record without markup. -/
def plainStatement (record : Record) : Except ValueFault String :=
  if record.constraintText.isTruthy then
    match record.constraintText with
    | .text constraint => .ok constraint
    | other => .error (.noMember other.kindName "replace")
  else do
    let traitName ← Record.shortPath record.traitName
    let typeName ← record.shortType
    return "impl " ++ traitName ++ " for " ++ typeName

def markupOf (record : Record) : Except ValueFault Value :=
  if record.rendered.isTruthy then .ok record.rendered
  else do
    let plain ← plainStatement record
    return .text (String.ofList (Markup.escape plain.toList))

def descriptorOfRecord (record : Record) : Except ValueFault Value := do
  let markup ← markupOf record
  return .mapping [
    (.text "text", markup),
    (.text "synthetic", record.synthetic),
    (.text "types", .list [record.implementingType])]

def descriptorOfElement : Element → Except ValueFault Value
  | .record record => descriptorOfRecord record
  | .other value => .error (.noMember value.kindName "rendered")

def assignmentLine (crate : String) (descriptors : List Value) : List Char :=
  "implementors[".toList ++ Json.encodeAsciiString crate ++ "] = ".toList
    ++ Json.encode (.list descriptors) ++ [';']

def lineOfEntry (crate : String) (entry : Entry) :
    Except ValueFault (List Char) := do
  let elements ← entry.elements
  let descriptors ← elements.mapM descriptorOfElement
  return assignmentLine crate descriptors

def write (fragment : Fragment) : Except ValueFault String := do
  let crates ← fragment.entries.crates "items"
  let lines ← crates.mapM fun field => lineOfEntry field.1 field.2
  return String.ofList (List.intercalate ['\n'] (header :: lines ++ [footer]))

end TraitIndex.Script
