import TraitIndex.Proofs.Registry.Facts
import TraitIndex.Proofs.Script.Records

/-!
# What records of texts state

A record of texts states one fact, unless it names no trait or no type.  What a
fragment of such records states and what is dropped of it can be told from the
texts alone.
-/

namespace TraitIndex

/-! ## One record -/

namespace TextRecord

variable (given : TextRecord)

/-- Whether a record names neither or only one of a trait and a type. -/
def isIncomplete : Bool :=
  given.traitName == "" || given.implementingType == ""

def identity : Identity :=
  ⟨given.traitName, given.owningCrate, given.implementingType,
    given.constraintText⟩

theorem isComplete_identity :
    given.identity.isComplete = !given.isIncomplete := by
  simp only [Identity.isComplete, identity, isIncomplete, Bool.not_or, bne]

theorem validIdentity?_record :
    given.record.validIdentity? = if given.isIncomplete then none
      else some given.identity := by
  change Option.filter _ (some given.identity) = _
  rw [Option.filter_some, isComplete_identity]
  cases given.isIncomplete <;> rfl

theorem identity_fact? : (Element.record given.record).fact?.map (·.identity) =
    if given.isIncomplete then none else some given.identity := by
  rw [Element.map_identity_fact?]
  exact given.validIdentity?_record

theorem isNone_fact? :
    (Element.record given.record).fact?.isNone = given.isIncomplete := by
  rw [← Option.isNone_map, identity_fact?]
  cases given.isIncomplete <;> rfl

end TextRecord

/-! ## The records of a fragment -/

def textElements (crates : Assoc String (List TextRecord)) : List Element :=
  crates.flatMap fun field => field.2.map fun given => .record given.record

/-- Whether an element is a record that names no trait or no type. -/
def Element.isIncomplete : Element → Bool
  | .record r =>
      r.traitName.text? == some "" || r.implementingType.text? == some ""
  | .other _ => false

section

variable (crates : Assoc String (List TextRecord)) (source : Value)

theorem Fragment.elements_ofTexts :
    (Fragment.ofTexts crates source).elements = .ok (textElements crates) := by
  have hlists : (crates.map fun field =>
      (field.1, Entry.listed
        (field.2.map fun given => .record given.record))).mapM
        (fun field => field.2.elements) =
      .ok (crates.map fun field => field.2.map fun given =>
        .record given.record) := by
    rw [List.mapM_map]
    exact mapM_eq_ok_map fun field _ => rfl
  unfold Fragment.elements Fragment.ofTexts Entries.crates
  simp only [bind, Except.bind, hlists]
  rfl

theorem isNone_fact?_of_mem {element : Element}
    (h : element ∈ textElements crates) :
    element.fact?.isNone = element.isIncomplete := by
  obtain ⟨field, -, helement⟩ := List.mem_flatMap.mp h
  obtain ⟨given, -, rfl⟩ := List.mem_map.mp helement
  exact given.isNone_fact?

namespace Payload

theorem facts_ofTexts :
    (Payload.fragment (Fragment.ofTexts crates source)).facts =
    (textElements crates).filterMap Element.fact? := by
  rw [textElements, List.filterMap_flatMap]
  exact List.flatMap_map ..

theorem droppings_ofTexts :
    (Payload.fragment (Fragment.ofTexts crates source)).droppings =
    (textElements crates).countP (·.isIncomplete) := by
  have hcount : (textElements crates).countP (·.isIncomplete) =
      (textElements crates).countP (·.fact?.isNone) :=
    List.countP_congr fun element helement => by
      rw [isNone_fact?_of_mem crates helement]
  rw [hcount, textElements, List.countP_flatMap]
  exact congrArg List.sum (List.map_map ..)

theorem identities_ofTexts :
    (Payload.fragment (Fragment.ofTexts crates source)).facts.map (·.identity) =
      ((crates.flatMap (·.2)).filter (!·.isIncomplete)).map
        TextRecord.identity := by
  have helements : textElements crates =
      (crates.flatMap (·.2)).map fun given => .record given.record :=
    List.map_flatMap.symm
  rw [facts_ofTexts, helements, List.map_filterMap, List.filterMap_map, ←
    List.filterMap_eq_map, List.filterMap_filter]
  congr 1
  funext given
  rw [Function.comp_apply, given.identity_fact?]
  cases given.isIncomplete <;> rfl

theorem mem_identities_ofTexts {identity : Identity} :
    identity ∈ (Payload.fragment (Fragment.ofTexts crates source)).facts.map
        (·.identity) ↔
      ∃ field ∈ crates, ∃ given ∈ field.2,
        given.isIncomplete = false ∧ given.identity = identity := by
  rw [identities_ofTexts]
  constructor
  · intro h
    obtain ⟨given, hgiven, hidentity⟩ := List.mem_map.mp h
    obtain ⟨hmem, hcomplete⟩ := List.mem_filter.mp hgiven
    obtain ⟨field, hfield, hrecord⟩ := List.mem_flatMap.mp hmem
    exact ⟨field, hfield, given, hrecord, Bool.not_eq_eq_eq_not.mp hcomplete,
      hidentity⟩
  · rintro ⟨field, hfield, given, hgiven, hcomplete, hidentity⟩
    exact List.mem_map.mpr ⟨given, List.mem_filter.mpr
      ⟨List.mem_flatMap.mpr ⟨field, hfield, hgiven⟩,
        Bool.not_eq_eq_eq_not.mpr hcomplete⟩, hidentity⟩

/-- A record of texts is a fact or is dropped. -/
theorem length_facts_add_droppings :
    (Payload.fragment (Fragment.ofTexts crates source)).facts.length +
      (Payload.fragment (Fragment.ofTexts crates source)).droppings =
        (textElements crates).length := by
  rw [facts_ofTexts, droppings_ofTexts, List.length_filterMap_eq_countP,
    List.length_eq_countP_add_countP (fun element => element.fact?.isSome)]
  congr 1
  refine List.countP_congr fun element helement => ?_
  rw [← isNone_fact?_of_mem crates helement]
  simp

end Payload

end

end TraitIndex
