import TraitIndex.Proofs.Registry.Merging

/-!
# Malformed parts

A payload may hold anything in any place.  What is malformed is counted, and
what stands next to it is merged as if it had come alone.  No part is used as
something it is not, so that a merge always comes to its end.
-/

namespace TraitIndex

def Element.isValid (element : Element) : Bool :=
  element.validIdentity?.isSome

theorem Element.isSome_fact? (element : Element) :
    element.fact?.isSome = element.isValid := by
  rw [isValid, ← map_identity_fact?, Option.isSome_map]

theorem Element.isNone_fact? (element : Element) :
    element.fact?.isNone = !element.isValid := by
  rw [← isSome_fact?, Option.not_isSome]

/-! ## What is left without them -/

/-- The valid records of a list, nothing of an entry that is no list. -/
def Entry.wellFormed? : Entry → Option Entry
  | .listed elements => some (.listed (elements.filter (·.isValid)))
  | .other _ => none

def Entry.partCount : Entry → Nat
  | .listed elements => elements.length + 1
  | .other _ => 1

/-- The lists among the entries of a fragment, with their valid records. -/
def wellFormed (crates : Assoc String Entry) : Assoc String Entry :=
  crates.filterMap fun field => field.2.wellFormed?.map (field.1, ·)

/-- How many entries a fragment has, and how many elements in them. -/
def partCount (crates : Assoc String Entry) : Nat :=
  (crates.map fun field => field.2.partCount).sum

theorem Entry.facts_filter_isValid (elements : List Element) :
    (Entry.listed (elements.filter (·.isValid))).facts =
      (Entry.listed elements).facts := by
  simp only [Entry.facts, List.filterMap_filter]
  apply List.filterMap_congr
  intro element _
  cases h : element.fact? with
  | none => simp
  | some fact => simp [← Element.isSome_fact?, h]

theorem Entry.droppings_filter_isValid (elements : List Element) :
    (Entry.listed (elements.filter (·.isValid))).droppings = 0 := by
  simp only [Entry.droppings, Element.isNone_fact?, List.countP_eq_zero,
    List.mem_filter]
  rintro element ⟨-, hvalid⟩
  simp [hvalid]

theorem Entry.partCount_listed (elements : List Element) :
    (Entry.listed elements).partCount =
      (Entry.listed (elements.filter (·.isValid))).partCount +
        (Entry.listed elements).droppings := by
  have hsplit := List.length_eq_countP_add_countP (·.isValid) (l := elements)
  simp only [Entry.partCount, Entry.droppings, Element.isNone_fact?, ←
    List.countP_eq_length_filter]
  simp only [Bool.not_eq_true, Bool.decide_eq_false] at hsplit
  omega

theorem wellFormed_cons (name : String) (entry : Entry)
    (crates : Assoc String Entry) :
    wellFormed ((name, entry) :: crates) =
      match entry with
      | .listed elements =>
          (name, .listed (elements.filter (·.isValid))) :: wellFormed crates
      | .other _ => wellFormed crates := by
  cases entry <;> rfl

variable (crates : Assoc String Entry)

/-- What is malformed states nothing. -/
theorem facts_wellFormed :
    ((wellFormed crates).flatMap fun field => field.2.facts) =
      crates.flatMap fun field => field.2.facts := by
  induction crates with
  | nil => rfl
  | cons field rest ih =>
      obtain ⟨name, entry⟩ := field
      rw [wellFormed_cons]
      cases entry with
      | other value => exact ih
      | listed elements =>
          rw [List.flatMap_cons, List.flatMap_cons, ih]
          exact congrArg (· ++ _) (Entry.facts_filter_isValid elements)

theorem droppings_wellFormed :
    ((wellFormed crates).map fun field => field.2.droppings).sum = 0 := by
  induction crates with
  | nil => rfl
  | cons field rest ih =>
      obtain ⟨name, entry⟩ := field
      rw [wellFormed_cons]
      cases entry with
      | other value => exact ih
      | listed elements =>
          rw [List.map_cons, List.sum_cons, ih]
          exact Entry.droppings_filter_isValid elements

theorem partCount_eq :
    partCount crates =
      partCount (wellFormed crates) +
        (crates.map fun field => field.2.droppings).sum := by
  induction crates with
  | nil => rfl
  | cons field rest ih =>
      obtain ⟨name, entry⟩ := field
      rw [wellFormed_cons]
      simp only [partCount, List.map_cons, List.sum_cons] at ih ⊢
      cases entry with
      | other value =>
          have hother : (Entry.other value).partCount =
              (Entry.other value).droppings := rfl
          simp only [hother, ih]
          omega
      | listed elements =>
          have hlisted := Entry.partCount_listed elements
          simp only [List.map_cons, List.sum_cons, hlisted, ih]
          omega

/-! ## Asking each part only for what it has -/

def Value.asText : Value → Except ValueFault String
  | .text value => .ok value
  | value => .error (.notText value.kindName)

/-- The identity of a record, refused when a field it is made of is no text. -/
def Record.identity (record : Record) : Except ValueFault Identity := do
  let traitName ← record.traitName.asText
  let owningCrate ← record.owningCrate.asText
  let implementingType ← record.implementingType.asText
  let constraintText ← record.constraintText.asText
  return ⟨traitName, owningCrate, implementingType, constraintText⟩

def Element.identified : Element → Except ValueFault (Identity × Record)
  | .record r => r.identity.map (·, r)
  | .other value => .error (.noMember value.kindName "identity")

theorem Record.identity_of_valid {record : Record} {identity : Identity}
    (h : record.validIdentity? = some identity) :
    record.identity = .ok identity := by
  obtain ⟨htrait, hcrate, htype, hconstraint⟩ :=
    identity?_eq_some (Option.filter_eq_some_iff.mp h).1
  rw [Record.identity, htrait, hcrate, htype, hconstraint]
  rfl

namespace Merging

def elementGuarded (merging : Merging) (element : Element) :
    Except ValueFault Merging :=
  if element.isValid then
    element.identified.map fun (identity, record) =>
      merging.record identity record
  else .ok merging.drop

def entryGuarded (merging : Merging) (entry : Entry) :
    Except ValueFault Merging :=
  match entry with
  | .listed _ => do (← entry.elements).foldlM elementGuarded merging
  | .other _ => .ok merging.drop

def cratesGuarded (merging : Merging) (crates : Assoc String Entry) :
    Except ValueFault Merging :=
  crates.foldlM (fun merging field => merging.entryGuarded field.2) merging

theorem elementGuarded_eq (merging : Merging) (element : Element) :
    merging.elementGuarded element = .ok (merging.element element) := by
  cases element with
  | other value => rfl
  | record r =>
      have hvalid : (Element.record r).isValid = r.validIdentity?.isSome := rfl
      cases h : r.validIdentity? with
      | none => simp [elementGuarded, element, hvalid, h]
      | some identity =>
          simp [elementGuarded, element, hvalid, h, Element.identified,
            Record.identity_of_valid h, Except.map]

theorem entryGuarded_eq (merging : Merging) (entry : Entry) :
    merging.entryGuarded entry = .ok (merging.entry entry) := by
  cases entry with
  | other value => rfl
  | listed elements =>
      have hstep : elementGuarded = fun merging element =>
          pure (merging.element element) :=
        funext₂ elementGuarded_eq
      change elements.foldlM elementGuarded merging =
        pure (elements.foldl element merging)
      rw [hstep, List.foldlM_pure]

theorem cratesGuarded_eq (merging : Merging) (crates : Assoc String Entry) :
    merging.cratesGuarded crates = .ok (merging.crates crates) := by
  simp only [cratesGuarded, entryGuarded_eq]
  exact List.foldlM_pure

end Merging

namespace Registry

def mergeGuarded (registry : Registry) (payload : Payload) :
    Except ValueFault Merged :=
  match payload with
  | .fragment ⟨.byCrate crates, source⟩ => do
      let merging ← (Merging.start registry).cratesGuarded crates
      let given := source.text?.getD ""
      let report := merging.report given
      return ⟨merging.registry.absorb report, report, mergeLog given report⟩
  | payload => .ok (registry.reject payload)

theorem mergeGuarded_eq (registry : Registry) (payload : Payload) :
    registry.mergeGuarded payload = .ok (registry.merge payload) := by
  match payload with
  | .other value => rfl
  | .fragment ⟨.other value, source⟩ => rfl
  | .fragment ⟨.byCrate crates, source⟩ =>
      simp only [mergeGuarded, Merging.cratesGuarded_eq]
      rfl

/-! ## The whole merge -/

/-- What a merge drops shows in one counter alone. -/
theorem absorb_of_dropped {report more : MergeReport} {droppings : Int}
    (haccepted : report.rejected = false)
    (hmore : more = { report with dropped := report.dropped + droppings })
    (registry : Registry) :
    registry.absorb more =
      { registry.absorb report with
        stats := { (registry.absorb report).stats with
          dropped :=
            (registry.absorb report).stats.dropped + droppings } } := by
  subst hmore
  simp [absorb, RegistryStats.absorb, haccepted, Int.add_assoc]

/-- A fragment is merged as what is left of it without its malformed entries and
elements would be, only that these are counted.  A payload that is no fragment,
or whose entries are no mapping, is counted and nothing else.  Either way no
part is asked for what it lacks. -/
theorem merge_wellFormed (registry : Registry) :
    (∀ (source : Value) (crates : Assoc String Entry),
      let given := registry.merge (.fragment ⟨.byCrate crates, source⟩)
      let kept :=
        registry.merge (.fragment ⟨.byCrate (wellFormed crates), source⟩)
      let removed : Int := partCount crates - partCount (wellFormed crates)
      given.report =
        { kept.report with dropped := kept.report.dropped + removed } ∧
      given.registry =
        { kept.registry with
          stats := { kept.registry.stats with
            dropped := kept.registry.stats.dropped + removed } }) ∧
    (∀ value source,
      (registry.merge (.other value)).registry = registry.absorb .rejection ∧
      (registry.merge (.fragment ⟨.other value, source⟩)).registry =
        registry.absorb .rejection ∧
      registry.absorb .rejection =
        { registry with
          stats := { registry.stats with
            fragmentsRejected := registry.stats.fragmentsRejected + 1 } }) ∧
    ∀ payload, registry.mergeGuarded payload =
      .ok (registry.merge payload) := by
  refine ⟨?_, fun value source => ⟨rfl, rfl, rfl⟩, registry.mergeGuarded_eq⟩
  intro source crates given kept removed
  let payload : Payload := .fragment ⟨.byCrate crates, source⟩
  let remaining : Payload := .fragment ⟨.byCrate (wellFormed crates), source⟩
  have hfacts : remaining.facts = payload.facts := facts_wellFormed crates
  have hdropped : remaining.droppings = 0 := droppings_wellFormed crates
  have hremoved : removed = payload.droppings := by
    have hparts := partCount_eq crates
    have hdroppings : payload.droppings =
      (crates.map fun field => field.2.droppings).sum := rfl
    omega
  have hsource : remaining.sourceId = payload.sourceId := by
    simp only [Payload.sourceId, hfacts]
    rfl
  have hreport : payload.report registry.seen =
      { remaining.report registry.seen with
        dropped := (remaining.report registry.seen).dropped + removed } := by
    simp [Payload.report, hfacts, hdropped, hremoved, hsource, payload,
      remaining, Payload.isAccepted, Payload.crates?]
  obtain ⟨hgiven, hgivenRegistry⟩ := registry.merge_eq payload
  obtain ⟨hkept, hkeptRegistry⟩ := registry.merge_eq remaining
  refine ⟨?_, ?_⟩
  · rw [hgiven, hkept, hreport]
  · have haccepted : (remaining.report registry.seen).rejected = false := rfl
    rw [hgivenRegistry, hkeptRegistry, hfacts]
    exact absorb_of_dropped haccepted hreport _

end Registry

end TraitIndex
