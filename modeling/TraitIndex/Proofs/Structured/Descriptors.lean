import TraitIndex.Proofs.Json.Content
import TraitIndex.Proofs.Registry.Merging
import TraitIndex.Proofs.Registry.TextRecords
import TraitIndex.Structured.Read

/-!
# Which descriptors are merged

A mapping from crates to values of JSON is read without fail, with one record
for each descriptor.  Merging drops the records of descriptors that are no
objects or lack a type or a trait, and takes up or counts again those of all
others, in whatever state the registry is.
-/

namespace TraitIndex.Structured

/-! ## Records of descriptors -/

/-- The record of a descriptor under a crate.  Only an object gets the given
trait when it names none. -/
def recordFor (crate defaultTrait : String) : Value → TextRecord
  | .mapping fields => {
      traitName := Value.givenText fields "trait" defaultTrait
      implementingType := Value.givenText fields "type" ""
      owningCrate := Value.givenText fields "crate" crate
      constraintText := Value.givenText fields "where" ""
      synthetic := (Value.fieldOrNull fields "synthetic").isTruthy
      rendered := Value.givenText fields "text" "" }
  | _ => {
      traitName := ""
      implementingType := ""
      owningCrate := crate
      constraintText := ""
      synthetic := false
      rendered := "" }

/-- A descriptor that names no trait or no type: it is no object, or its type
counts as not given, or its trait does and there is no trait to take instead. -/
def isUnnamed (defaultTrait : String) : Value → Bool
  | .mapping fields =>
      !(Value.fieldOrNull fields "type").isTruthy ||
        (!(Value.fieldOrNull fields "trait").isTruthy && defaultTrait == "")
  | _ => true

/-- A record of an object, with the given trait when it names none. -/
def withDefault (defaultTrait : String) (descriptor : Value)
    (given : TextRecord) : TextRecord :=
  match descriptor with
  | .mapping _ =>
      if given.traitName = "" then { given with traitName := defaultTrait }
      else given
  | _ => given

section

variable {fields : List (Value × Value)}
  (hfields : ∀ field ∈ fields, Value.IsJson field.2)

include hfields

theorem givenText_eq_empty_iff (name standIn : String) :
    Value.givenText fields name standIn = "" ↔
      (Value.fieldOrNull fields name).isTruthy = false ∧ standIn = "" := by
  have hjson := Value.isJson_fieldOrNull hfields name
  rw [Value.givenText]
  cases hgiven : (Value.fieldOrNull fields name).isTruthy with
  | false => simp
  | true => simp [hjson.toText_ne_empty hgiven]

theorem givenText_default (name standIn : String) :
    Value.givenText fields name standIn =
      if Value.givenText fields name "" = "" then standIn
      else Value.givenText fields name "" := by
  have hempty := givenText_eq_empty_iff hfields name ""
  cases hgiven : (Value.fieldOrNull fields name).isTruthy with
  | false => simp [Value.givenText, hgiven]
  | true =>
      have hne : Value.givenText fields name "" ≠ "" := by simp [hempty, hgiven]
      rw [if_neg hne]
      simp [Value.givenText, hgiven]

end

section

variable {crate defaultTrait : String} {descriptor : Value}
  (h : Value.IsJson descriptor)

include h

theorem recordOfDescriptor_eq :
    recordOfDescriptor crate defaultTrait descriptor =
      .ok (recordFor crate defaultTrait descriptor).record := by
  cases h with
  | @mapping fields _ hfields =>
      have htext (name standIn : String) :
          textOr fields name standIn =
            .ok (Value.givenText fields name standIn) :=
        Value.printedOr_eq_givenText hfields name standIn
      unfold recordOfDescriptor
      simp only [htext, bind, Except.bind]
      rfl
  | _ => rfl

/-- The records that a registry drops are those of descriptors without a
name. -/
theorem isIncomplete_recordFor :
    (recordFor crate defaultTrait descriptor).isIncomplete =
      isUnnamed defaultTrait descriptor := by
  cases h with
  | @mapping fields _ hfields =>
      have htrait := givenText_eq_empty_iff hfields "trait" defaultTrait
      have htype := givenText_eq_empty_iff hfields "type" ""
      rw [Bool.eq_iff_iff]
      simp [TextRecord.isIncomplete, recordFor, isUnnamed, htrait,
        htype, or_comm]
  | _ => rfl

theorem recordFor_default :
    recordFor crate defaultTrait descriptor =
      withDefault defaultTrait descriptor (recordFor crate "" descriptor) := by
  cases h with
  | @mapping fields _ hfields =>
      have htrait := givenText_default hfields "trait" defaultTrait
      by_cases hnone : Value.givenText fields "trait" "" = ""
      · simp [withDefault, recordFor, htrait, hnone]
      · simp [withDefault, recordFor, htrait, hnone]
  | _ => rfl

end

/-! ## Whole mappings -/

def recordsOf (defaultTrait : String) (crates : Assoc String Value) :
    Assoc String (List TextRecord) :=
  crates.map fun field =>
    (field.1, (descriptorsOf field.2).map (recordFor field.1 defaultTrait))

def descriptorsIn (crates : Assoc String Value) : List Value :=
  crates.flatMap fun field => descriptorsOf field.2

theorem isJson_of_mem_descriptorsOf {value descriptor : Value}
    (h : Value.IsJson value) (hmem : descriptor ∈ descriptorsOf value) :
    Value.IsJson descriptor := by
  have hkind : (∃ items, value = .list items) ∨ descriptorsOf value =
      [value] := by
    cases value with
    | list items => exact .inl ⟨items, rfl⟩
    | _ => exact .inr rfl
  obtain ⟨items, rfl⟩ | hsingle := hkind
  · cases h with
    | list hitems => exact hitems descriptor hmem
  · rw [hsingle, List.mem_singleton] at hmem
    exact hmem ▸ h

theorem entryOfField_eq {field : String × Value} (h : Value.IsJson field.2)
    (defaultTrait : String) :
    entryOfField defaultTrait (.text field.1, field.2) =
      .ok (field.1,
        ((descriptorsOf field.2).map (recordFor field.1 defaultTrait)).map
          TextRecord.record) := by
  have hcrate : (Value.text field.1).printed = .ok field.1 := rfl
  have hrecords :
      (descriptorsOf field.2).mapM (recordOfDescriptor field.1 defaultTrait) =
      .ok (((descriptorsOf field.2).map (recordFor field.1 defaultTrait)).map
        TextRecord.record) := by
    rw [List.map_map]
    exact mapM_eq_ok_map fun descriptor hdescriptor =>
      recordOfDescriptor_eq (isJson_of_mem_descriptorsOf h hdescriptor)
  unfold entryOfField
  simp only [hcrate, hrecords, bind, Except.bind]
  rfl

section

variable {crates : Assoc String Value}
  (hjson : ∀ field ∈ crates, Value.IsJson field.2)

include hjson

theorem ofValue_eq (hkeys : crates.keys.Nodup) (source defaultTrait : String) :
    ofValue (.mapping (crates.map fun field => (.text field.1, field.2))) source
      defaultTrait =
      .ok (Fragment.ofTexts (recordsOf defaultTrait crates)
        (.text source)) := by
  have hentries : (crates.map fun field => (Value.text field.1, field.2)).mapM
      (entryOfField defaultTrait) =
        .ok ((recordsOf defaultTrait crates).map fun field =>
          (field.1, field.2.map TextRecord.record)) := by
    rw [List.mapM_map, recordsOf, List.map_map]
    exact mapM_eq_ok_map fun field hfield => entryOfField_eq
      (hjson field hfield) defaultTrait
  have hrecords : (recordsOf defaultTrait crates).keys.Nodup := by
    rw [Assoc.keys, recordsOf, List.map_map]
    exact hkeys
  unfold ofValue
  simp only [hentries]
  change Except.ok (Fragment.ofRecords (Assoc.ofList _) source) = _
  rw [Fragment.ofRecords_texts, Assoc.ofList_of_nodup hrecords]

theorem recordsOf_default (defaultTrait : String) :
    recordsOf defaultTrait crates = crates.map fun field =>
      (field.1, (descriptorsOf field.2).map fun descriptor =>
        withDefault defaultTrait descriptor
          (recordFor field.1 "" descriptor)) := by
  apply List.map_congr_left
  intro field hfield
  congr 1
  apply List.map_congr_left
  intro descriptor hdescriptor
  exact recordFor_default
    (isJson_of_mem_descriptorsOf (hjson field hfield) hdescriptor)

/-! ## Merging -/

theorem droppings_recordsOf (defaultTrait : String) (source : Value) :
    (Payload.fragment
      (Fragment.ofTexts (recordsOf defaultTrait crates) source)).droppings =
      (descriptorsIn crates).countP (isUnnamed defaultTrait) := by
  rw [Payload.droppings_ofTexts, textElements, recordsOf, List.flatMap_map,
    List.countP_flatMap, descriptorsIn, List.countP_flatMap]
  congr 1
  apply List.map_congr_left
  intro field hfield
  rw [Function.comp_apply, Function.comp_apply, List.map_map, List.countP_map]
  refine List.countP_congr fun descriptor hdescriptor => ?_
  have hrecord :
      (Element.record
        (recordFor field.1 defaultTrait descriptor).record).isIncomplete =
      isUnnamed defaultTrait descriptor :=
    isIncomplete_recordFor
      (isJson_of_mem_descriptorsOf (hjson field hfield) hdescriptor)
  rw [← hrecord]
  rfl

theorem length_facts_recordsOf (defaultTrait : String) (source : Value) :
    (Payload.fragment
      (Fragment.ofTexts (recordsOf defaultTrait crates) source)).facts.length =
      (descriptorsIn crates).countP fun descriptor =>
        !isUnnamed defaultTrait descriptor := by
  have hall :=
    Payload.length_facts_add_droppings (recordsOf defaultTrait crates) source
  have hlength : (textElements (recordsOf defaultTrait crates)).length =
      (descriptorsIn crates).length := by
    simp [textElements, recordsOf, descriptorsIn, List.flatMap_map,
      List.length_flatMap]
  have hsplit :=
    (descriptorsIn crates).length_eq_countP_add_countP (isUnnamed defaultTrait)
  simp only [Bool.not_eq_true, ← Bool.not_eq_true', Bool.decide_eq_true]
    at hsplit
  rw [droppings_recordsOf hjson, hlength] at hall
  omega

theorem mem_identities_recordsOf {defaultTrait : String} {source : Value}
    {identity : Identity} :
    identity ∈ (Payload.fragment
        (Fragment.ofTexts (recordsOf defaultTrait crates) source)).facts.map
          (·.identity) ↔
      ∃ field ∈ crates, ∃ descriptor ∈ descriptorsOf field.2,
        isUnnamed defaultTrait descriptor = false ∧
          (recordFor field.1 defaultTrait descriptor).identity = identity := by
  have hnamed {field : String × Value}
      (hfield : field ∈ crates) {descriptor : Value}
      (hdescriptor : descriptor ∈ descriptorsOf field.2) :
      (recordFor field.1 defaultTrait descriptor).isIncomplete =
        isUnnamed defaultTrait descriptor :=
    isIncomplete_recordFor
      (isJson_of_mem_descriptorsOf (hjson field hfield) hdescriptor)
  rw [Payload.mem_identities_ofTexts]
  constructor
  · rintro ⟨_, hrecords, _, hrecord, hcomplete, rfl⟩
    obtain ⟨field, hfield, rfl⟩ := List.mem_map.mp hrecords
    obtain ⟨descriptor, hdescriptor, rfl⟩ := List.mem_map.mp hrecord
    exact ⟨field, hfield, descriptor, hdescriptor,
      hnamed hfield hdescriptor ▸ hcomplete, rfl⟩
  · rintro ⟨field, hfield, descriptor, hdescriptor, hcomplete, rfl⟩
    exact ⟨_, List.mem_map_of_mem hfield, _, List.mem_map_of_mem hdescriptor,
      (hnamed hfield hdescriptor).trans hcomplete, rfl⟩

end

/-- What merging one record does to the counters: the record of a descriptor
without a name is dropped, any other is added or is a duplicate. -/
structure Sorts (unnamed : Bool) (before after : Merging) : Prop where
  drops : unnamed = true → after = before.drop
  keeps : unnamed = false → after.dropped = before.dropped ∧
    (after.added = before.added + 1 ∧ after.duplicates = before.duplicates ∨
      after.added = before.added ∧ after.duplicates = before.duplicates + 1)

theorem sorts_element {crate defaultTrait : String} {descriptor : Value}
    (h : Value.IsJson descriptor) (merging : Merging) :
    Sorts (isUnnamed defaultTrait descriptor) merging
      (merging.element
        (.record (recordFor crate defaultTrait descriptor).record)) := by
  have hvalid := (recordFor crate defaultTrait descriptor).validIdentity?_record
  rw [isIncomplete_recordFor h] at hvalid
  cases hunnamed : isUnnamed defaultTrait descriptor with
  | true =>
      simp only [hunnamed, if_true] at hvalid
      refine ⟨fun _ => ?_, fun hnamed => absurd hnamed (by decide)⟩
      rw [Merging.element, hvalid]
  | false =>
      simp only [hunnamed, Bool.false_eq_true, if_false] at hvalid
      refine ⟨fun hnone => absurd hnone Bool.false_ne_true, fun _ => ?_⟩
      rw [Merging.element, hvalid]
      dsimp only [Merging.record]
      split
      · exact ⟨rfl, .inr ⟨rfl, rfl⟩⟩
      · exact ⟨rfl, .inl ⟨rfl, rfl⟩⟩

/-- What is left of a registry and reported when the records of a mapping have
been merged. -/
structure MergedFrom (defaultTrait : String) (crates : Assoc String Value)
    (registry : Registry) (merged : Merged) : Prop where
  rejected_eq : merged.report.rejected = false
  dropped_eq : merged.report.dropped =
    (descriptorsIn crates).countP (isUnnamed defaultTrait)
  kept_eq : merged.report.added + merged.report.duplicates =
    (descriptorsIn crates).countP fun descriptor =>
      !isUnnamed defaultTrait descriptor
  mem_seen_iff : ∀ identity, identity ∈ merged.registry.seen ↔
      identity ∈ registry.seen ∨
    ∃ field ∈ crates, ∃ descriptor ∈ descriptorsOf field.2,
      isUnnamed defaultTrait descriptor = false ∧
        (recordFor field.1 defaultTrait descriptor).identity = identity

theorem mergedFrom_merge {crates : Assoc String Value}
    (hjson : ∀ field ∈ crates, Value.IsJson field.2) (defaultTrait : String)
    (source : Value) (registry : Registry) :
    MergedFrom defaultTrait crates registry
      (registry.merge
        (.fragment (Fragment.ofTexts
          (recordsOf defaultTrait crates) source))) := by
  obtain ⟨hreport, -⟩ := registry.merge_eq
    (.fragment (Fragment.ofTexts (recordsOf defaultTrait crates) source))
  refine ⟨?_, ?_, ?_, fun identity => ?_⟩
  · rw [hreport]
    rfl
  · rw [hreport, ← droppings_recordsOf hjson defaultTrait source]
    rfl
  · rw [hreport, ← length_facts_recordsOf hjson defaultTrait source]
    exact (Int.add_comm ..).trans (Int.sub_add_cancel ..)
  · rw [Registry.mem_seen_merge, List.mem_append,
      mem_identities_recordsOf hjson]

/-- A mapping from crates to values of JSON is read as one record for each
descriptor, a value that is no list being the only one.  Merging drops the
records of exactly those descriptors that are no objects, lack a type, or lack a
trait when there is none to take instead; every other is added or is a
duplicate.  A trait to take instead shows in the records of objects that name
none, and nowhere else. -/
theorem merge_ofValue (crates : Assoc String Value)
    (defaultTrait source : String) (hkeys : crates.keys.Nodup)
    (hjson : ∀ field ∈ crates, Value.IsJson field.2) :
    let document :=
      Value.mapping (crates.map fun field => (.text field.1, field.2))
    let fragment :=
      Fragment.ofTexts (recordsOf defaultTrait crates) (.text source)
    ofValue document source defaultTrait = .ok fragment ∧
      (∀ registry : Registry,
        MergedFrom defaultTrait crates registry
          (registry.merge (.fragment fragment))) ∧
      (∀ field ∈ crates, ∀ descriptor ∈ descriptorsOf field.2,
        ∀ merging : Merging, Sorts (isUnnamed defaultTrait descriptor) merging
          (merging.element
            (.record (recordFor field.1 defaultTrait descriptor).record))) ∧
      ofValue document source "" =
        .ok (Fragment.ofTexts (recordsOf "" crates) (.text source)) ∧
      recordsOf defaultTrait crates = crates.map fun field =>
        (field.1, (descriptorsOf field.2).map fun descriptor =>
          withDefault defaultTrait descriptor
            (recordFor field.1 "" descriptor)) := by
  intro document fragment
  refine ⟨ofValue_eq hjson hkeys source defaultTrait,
    mergedFrom_merge hjson defaultTrait (.text source), ?_,
    ofValue_eq hjson hkeys source "", recordsOf_default hjson defaultTrait⟩
  intro field hfield descriptor hdescriptor merging
  exact sorts_element
    (isJson_of_mem_descriptorsOf (hjson field hfield) hdescriptor) merging

/-- Descriptors of several kinds: two of them name a type and take a given
trait. -/
def oddCrates : Assoc String Value := [
  ("core", .list [
    .mapping [(.text "type", .list [.null])],
    .mapping [(.text "trait", .bool true), (.text "type", .int 0)],
    .null]),
  ("b", .mapping [(.text "trait", .text ""), (.text "type", .text "T")]),
  ("c", .text "x")]

theorem isJson_oddCrates : ∀ field ∈ oddCrates, Value.IsJson field.2 := by
  have hzero : Value.IsJson (.int 0) := .int (Nat.pow_pos (by decide))
  have hobject {name : String} {item : Value} {fields : List (Value × Value)}
      (hitem : Value.IsJson item) (hrest : Value.IsJson (.mapping fields)) :
      Value.IsJson (.mapping ((.text name, item) :: fields)) := by
    cases hrest with
    | mapping hnames hitems =>
        exact .mapping (List.forall_mem_cons.mpr ⟨rfl, hnames⟩)
          (List.forall_mem_cons.mpr ⟨hitem, hitems⟩)
  have hnone : Value.IsJson (.mapping []) := .mapping (by simp) (by simp)
  have hlist : Value.IsJson (.list [.null]) :=
    .list (by simpa using Value.IsJson.null)
  unfold oddCrates
  simp only [List.forall_mem_cons]
  refine ⟨.list ?_, hobject (.text _) (hobject (.text _) hnone),
    .text _, by simp⟩
  simp only [List.forall_mem_cons]
  exact ⟨hobject hlist hnone, hobject (.bool _) (hobject hzero hnone),
    .null, by simp⟩

theorem merge_ofValue_odd :
    oddCrates.keys.Nodup ∧ (∀ field ∈ oddCrates, Value.IsJson field.2) ∧
      ofValue (.mapping (oddCrates.map fun field => (.text field.1, field.2)))
        "a.json" "Display" =
        .ok (Fragment.ofTexts (recordsOf "Display" oddCrates)
          (.text "a.json")) ∧
      ∀ registry : Registry,
        (registry.merge
          (.fragment (Fragment.ofTexts (recordsOf "Display" oddCrates)
          (.text "a.json")))).report.dropped = 3 := by
  have hkeys : oddCrates.keys.Nodup := by decide
  obtain ⟨hread, hmerged, -⟩ :=
    merge_ofValue oddCrates "Display" "a.json" hkeys isJson_oddCrates
  refine ⟨hkeys, isJson_oddCrates, hread, fun registry => ?_⟩
  rw [(hmerged registry).dropped_eq]
  decide

end TraitIndex.Structured
