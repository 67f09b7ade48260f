import TraitIndex.Implementor.Fragment
import TraitIndex.Log
import TraitIndex.Registry.ContentId
import TraitIndex.Registry.Report

/-!
The registry of implementors and how fragments are merged into it.

A record is added when it is valid and no record with its identity has been
added before; the first one seen stays.  Whatever is not a valid record is
dropped and counted, and what stands next to it is merged all the same.
-/

namespace TraitIndex

/-- The records by trait, in the order in which they were added, and the
identities of all of them. -/
structure Registry where
  byTrait : Assoc String (List Record)
  seen : List Identity
  isInitialized : Bool
  stats : RegistryStats
  deriving Repr, Inhabited

namespace Registry

def empty : Registry := ⟨[], [], false, .empty⟩

def records (registry : Registry) (traitName : String) : List Record :=
  (registry.byTrait.find? traitName).getD []

def size (registry : Registry) : Nat :=
  registry.seen.length

def append (byTrait : Assoc String (List Record)) (traitName : String)
    (record : Record) :
    Assoc String (List Record) :=
  byTrait.insert traitName ((byTrait.find? traitName).getD [] ++ [record])

def add (registry : Registry) (identity : Identity) (record : Record) :
    Registry :=
  { registry with
    byTrait := append registry.byTrait identity.traitName record
    seen := registry.seen ++ [identity] }

@[simp] theorem records_empty (traitName : String) :
    empty.records traitName = [] := rfl

theorem records_add (registry : Registry) (identity : Identity)
    (record : Record) (traitName : String) :
    (registry.add identity record).records traitName
      = if traitName = identity.traitName then
        registry.records traitName ++ [record]
        else registry.records traitName := by
  simp only [records, add, append, Assoc.find?_insert]
  split
  · next h => rw [h, Option.getD_some]
  · rfl

@[simp] theorem size_add (registry : Registry) (identity : Identity)
    (record : Record) :
    (registry.add identity record).size = registry.size + 1 := by
  simp [size, add]

end Registry

/-- A merge in progress: the registry, what has been counted, and the identities
of the valid records so far. -/
structure Merging where
  registry : Registry
  added : Nat
  duplicates : Nat
  dropped : Nat
  identities : List Identity
  deriving Repr, Inhabited

namespace Merging

def start (registry : Registry) : Merging := ⟨registry, 0, 0, 0, []⟩

def drop (merging : Merging) : Merging :=
  { merging with dropped := merging.dropped + 1 }

def record (merging : Merging) (identity : Identity) (record : Record) :
    Merging :=
  let merging := { merging with identities := merging.identities ++ [identity] }
  if merging.registry.seen.contains identity then
    { merging with duplicates := merging.duplicates + 1 }
  else
    { merging with
      registry := merging.registry.add identity record,
      added := merging.added + 1 }

def element (merging : Merging) : Element → Merging
  | .other _ => merging.drop
  | .record r =>
      match r.validIdentity? with
      | some identity => merging.record identity r
      | none => merging.drop

def entry (merging : Merging) : Entry → Merging
  | .listed elements => elements.foldl element merging
  | .other _ => merging.drop

def crates (merging : Merging) (entries : Assoc String Entry) : Merging :=
  entries.foldl (fun merging field => merging.entry field.2) merging

end Merging

def Merging.report (merging : Merging) (source : String) : MergeReport where
  source := if source = "" then contentId merging.identities else source
  added := merging.added
  duplicates := merging.duplicates
  dropped := merging.dropped
  rejected := false

def mergeLog (source : String) (report : MergeReport) : Log :=
  let shown := Text.nameOr "<unnamed>" source
  let droppings : Log :=
    if report.dropped = 0 then []
    else
      [⟨.warning, "Dropped " ++ toString report.dropped
        ++ " malformed record(s) from fragment "
        ++ shown⟩]
  droppings ++
    [⟨.debug, "Merged fragment " ++ shown ++ ": " ++ toString report.added
      ++ " of "
      ++ toString report.total ++ " record(s) added, "
      ++ toString report.duplicates
      ++ " duplicate(s)"⟩]

def Payload.kindName : Payload → String
  | .fragment _ => "Fragment"
  | .other value => value.kindName

structure Merged where
  registry : Registry
  report : MergeReport
  log : Log
  deriving Repr, Inhabited

namespace Registry

def absorb (registry : Registry) (report : MergeReport) : Registry :=
  { registry with stats := registry.stats.absorb report }

def reject (registry : Registry) (payload : Payload) : Merged where
  registry := registry.absorb .rejection
  report := .rejection
  log := [⟨.warning, "Rejected malformed payload of type " ++ payload.kindName⟩]

def mergeEntries (registry : Registry) (entries : Assoc String Entry)
    (source : String) : Merged :=
  let merging := (Merging.start registry).crates entries
  let report := merging.report source
  ⟨merging.registry.absorb report, report, mergeLog source report⟩

def merge (registry : Registry) (payload : Payload) : Merged :=
  match payload with
  | .fragment ⟨.byCrate entries, source⟩ =>
      registry.mergeEntries entries (source.text?.getD "")
  | payload => registry.reject payload

def mergeAll (registry : Registry) :
    List Payload → Registry × List MergeReport × Log
  | [] => (registry, [], [])
  | payload :: rest =>
      let merged := registry.merge payload
      let (final, reports, log) := mergeAll merged.registry rest
      (final, merged.report :: reports, merged.log ++ log)

end Registry

end TraitIndex
