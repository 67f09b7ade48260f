import TraitIndex.Proofs.Delivery.Receivers
import TraitIndex.Proofs.Registry.Contents
import TraitIndex.Proofs.Registry.Totals

/-!
# Consistent registries

A registry says the same thing three times: in the lists of its traits, in the
identities it has seen and in its counters.  `Consistent` is what the lists and
the identities have to do with each other; every merge keeps it, and so does
every step of a hub.
-/

namespace TraitIndex

namespace Registry

/-- The identities of all stored records, list by list. -/
def storedIdentities (byTrait : Assoc String (List Record)) : List Identity :=
  byTrait.flatMap fun field => field.2.filterMap Record.identity?

structure Consistent (registry : Registry) : Prop where
  keys_nodup : registry.byTrait.keys.Nodup
  list_ne_nil : ∀ field ∈ registry.byTrait, field.2 ≠ []
  valid : ∀ field ∈ registry.byTrait, ∀ record ∈ field.2,
    ∃ identity, record.validIdentity? = some identity ∧
      identity.traitName = field.1
  seen_perm : (storedIdentities registry.byTrait).Perm registry.seen
  seen_nodup : registry.seen.Nodup

/-! ## One more record -/

theorem append_nil (traitName : String) (record : Record) :
    append [] traitName record = [(traitName, [record])] := rfl

theorem append_cons_self (traitName : String) (records : List Record)
    (rest : Assoc String (List Record)) (record : Record) :
    append ((traitName, records) :: rest) traitName record =
      (traitName, records ++ [record]) :: rest := by
  simp [append, Assoc.find?, Assoc.insert]

theorem append_cons_of_ne {traitName other : String} (h : other ≠ traitName)
    (records : List Record) (rest : Assoc String (List Record))
    (record : Record) :
    append ((other, records) :: rest) traitName record =
      (other, records) :: append rest traitName record := by
  simp [append, Assoc.find?, Assoc.insert, h]

theorem storedIdentities_append (byTrait : Assoc String (List Record))
    (traitName : String) {record : Record} {identity : Identity}
    (h : record.identity? = some identity) :
    (storedIdentities (append byTrait traitName record)).Perm
      (storedIdentities byTrait ++ [identity]) := by
  induction byTrait with
  | nil => simp [append_nil, storedIdentities, h]
  | cons field rest ih =>
      obtain ⟨other, records⟩ := field
      by_cases hname : other = traitName
      · subst hname
        rw [append_cons_self]
        simp only [storedIdentities, List.flatMap_cons, List.filterMap_append,
          List.append_assoc]
        apply List.Perm.append_left
        simpa [h] using (List.perm_append_singleton identity _).symm
      · rw [append_cons_of_ne hname]
        simp only [storedIdentities, List.flatMap_cons, List.append_assoc]
          at ih ⊢
        exact ih.append_left _

/-- The fields of a map with one more record: the old ones, and one whose list
ends in it. -/
theorem mem_append {byTrait : Assoc String (List Record)} {traitName : String}
    {record : Record} {field : String × List Record}
    (h : field ∈ append byTrait traitName record) :
    field ∈ byTrait ∨ ∃ records, field = (traitName, records ++ [record]) ∧
      (records = [] ∨ (traitName, records) ∈ byTrait) := by
  induction byTrait with
  | nil =>
      rw [append_nil, List.mem_singleton] at h
      exact .inr ⟨[], h, .inl rfl⟩
  | cons first rest ih =>
      obtain ⟨other, records⟩ := first
      by_cases hname : other = traitName
      · subst hname
        rw [append_cons_self, List.mem_cons] at h
        cases h with
        | inl hfield => exact .inr ⟨records, hfield, .inr List.mem_cons_self⟩
        | inr hrest => exact .inl (List.mem_cons_of_mem _ hrest)
      · rw [append_cons_of_ne hname, List.mem_cons] at h
        cases h with
        | inl hfield => exact .inl (hfield ▸ List.mem_cons_self)
        | inr hrest =>
            obtain hold | ⟨kept, hfield, hkept⟩ := ih hrest
            · exact .inl (List.mem_cons_of_mem _ hold)
            · exact .inr ⟨kept, hfield,
                hkept.imp_right (List.mem_cons_of_mem _)⟩

variable {registry : Registry}

theorem Consistent.empty : Consistent empty where
  keys_nodup := List.nodup_nil
  list_ne_nil _ h := absurd h List.not_mem_nil
  valid _ h := absurd h List.not_mem_nil
  seen_perm := .refl _
  seen_nodup := List.nodup_nil

theorem Consistent.add (h : Consistent registry) (fact : Fact)
    (hnew : fact.identity ∉ registry.seen) :
    Consistent (registry.add fact.identity fact.record) where
  keys_nodup := Assoc.nodup_keys_insert h.keys_nodup _ _
  list_ne_nil field hfield := by
    obtain hold | ⟨records, rfl, -⟩ := mem_append hfield
    · exact h.list_ne_nil field hold
    · simp
  valid field hfield record hrecord := by
    obtain hold | ⟨records, rfl, hrecords⟩ := mem_append hfield
    · exact h.valid field hold record hrecord
    · rw [List.mem_append, List.mem_singleton] at hrecord
      obtain hrecord | rfl := hrecord
      · obtain rfl | hstored := hrecords
        · exact absurd hrecord List.not_mem_nil
        · exact h.valid _ hstored record hrecord
      · exact ⟨fact.identity, fact.isValid, rfl⟩
  seen_perm :=
    (storedIdentities_append registry.byTrait fact.identity.traitName
      fact.identity_of_valid).trans
      (h.seen_perm.append_right _)
  seen_nodup := by
    have hsingle : [fact.identity].Nodup := List.nodup_singleton _
    refine List.nodup_append.mpr ⟨h.seen_nodup, hsingle, ?_⟩
    intro identity hidentity other hother heq
    rw [List.mem_singleton] at hother
    exact hnew (hother ▸ heq ▸ hidentity)

theorem Consistent.addAll (h : Consistent registry) (facts : List Fact) :
    Consistent (registry.addAll (unseen registry.seen facts)) := by
  induction facts generalizing registry with
  | nil => exact h
  | cons fact rest ih =>
      by_cases hseen : fact.identity ∈ registry.seen
      · rw [unseen_cons_of_mem hseen]
        exact ih h
      · rw [unseen_cons_of_not_mem hseen, addAll_cons]
        exact ih (h.add fact hseen)

/-! ## Merges and steps -/

theorem Consistent.merge (h : Consistent registry) (payload : Payload) :
    Consistent (registry.merge payload).registry := by
  rw [(registry.merge_eq payload).2]
  obtain ⟨hkeys, hlists, hvalid, hperm, hseen⟩ := h.addAll payload.facts
  exact ⟨hkeys, hlists, hvalid, hperm, hseen⟩

theorem Consistent.mergeAll (h : Consistent registry)
    (payloads : List Payload) :
    Consistent (registry.mergeAll payloads).1 := by
  induction payloads generalizing registry with
  | nil => exact h
  | cons payload rest ih => exact ih (h.merge payload)

theorem Consistent.receiving (h : Consistent registry) (name : String)
    (history : List Event) :
    Consistent (registry.receiving name history) := by
  obtain ⟨hkeys, hlists, hvalid, hperm, hseen⟩ :=
    h.mergeAll (received (.registry name) history)
  unfold Registry.receiving
  dsimp only
  split <;> exact ⟨hkeys, hlists, hvalid, hperm, hseen⟩

theorem records_receiving (registry : Registry) (name : String)
    (history : List Event) :
    (registry.receiving name history).stats.records -
      (registry.receiving name history).size =
      registry.stats.records - registry.size := by
  have hmerged := registry.mergeAll_records (received (.registry name) history)
  unfold Registry.receiving
  dsimp only
  split <;> exact hmerged

/-! ## What a consistent registry answers -/

namespace Consistent

variable (h : Consistent registry)

include h

theorem records_of_mem {field : String × List Record}
    (hfield : field ∈ registry.byTrait) :
    registry.records field.1 = field.2 := by
  rw [records, Assoc.find?_of_mem h.keys_nodup hfield]
  rfl

omit h in
theorem mem_of_records {traitName : String} {record : Record}
    (hrecord : record ∈ registry.records traitName) :
    (traitName, registry.records traitName) ∈ registry.byTrait := by
  cases hfind : registry.byTrait.find? traitName with
  | none => simp [records, hfind] at hrecord
  | some found =>
      simp only [records, hfind, Option.getD_some]
      exact Assoc.mem_of_find? hfind

theorem valid_of_mem_records {traitName : String} {record : Record}
    (hrecord : record ∈ registry.records traitName) :
    ∃ identity, record.validIdentity? = some identity ∧
      identity.traitName = traitName :=
  h.valid _ (mem_of_records hrecord) record hrecord

theorem mem_seen_iff (identity : Identity) :
    identity ∈ registry.seen ↔
      ∃ traitName, ∃ record ∈ registry.records traitName,
        record.identity? = some identity := by
  rw [← h.seen_perm.mem_iff, storedIdentities, List.mem_flatMap]
  constructor
  · rintro ⟨field, hfield, hidentity⟩
    rw [← h.records_of_mem hfield, List.mem_filterMap] at hidentity
    exact ⟨field.1, hidentity⟩
  · rintro ⟨traitName, record, hrecord, hidentity⟩
    exact ⟨_, mem_of_records hrecord, List.mem_filterMap.mpr
      ⟨record, hrecord, hidentity⟩⟩

theorem mem_traits_iff (traitName : String) :
    traitName ∈ registry.traits ↔ registry.records traitName ≠ [] := by
  rw [registry.traits_perm_keys.mem_iff, Assoc.keys, List.mem_map]
  constructor
  · rintro ⟨field, hfield, rfl⟩
    rw [h.records_of_mem hfield]
    exact h.list_ne_nil field hfield
  · intro hne
    obtain ⟨record, hrecord⟩ := List.exists_mem_of_ne_nil _ hne
    exact ⟨_, mem_of_records hrecord, rfl⟩

theorem pairwise_traits_lt : registry.traits.Pairwise (· < ·) := by
  have hnodup : registry.traits.Nodup :=
    registry.traits_perm_keys.nodup_iff.mpr h.keys_nodup
  refine (registry.pairwise_traits.and hnodup).imp ?_
  rintro a b ⟨hle, hne⟩
  exact Std.lt_of_le_of_ne hle hne

/-- Every stored record counts once in the size. -/
theorem size_eq_sum :
    registry.size =
      (registry.traits.map fun traitName =>
        (registry.records traitName).length).sum := by
  have hidentities : ∀ field ∈ registry.byTrait,
      (field.2.filterMap Record.identity?).length = field.2.length := by
    intro field hfield
    rw [List.length_filterMap_eq_countP, List.countP_eq_length]
    intro record hrecord
    obtain ⟨identity, hvalid, -⟩ := h.valid field hfield record hrecord
    rw [(Option.filter_eq_some_iff.mp hvalid).1]
    rfl
  calc registry.size
    _ = (storedIdentities registry.byTrait).length := h.seen_perm.length_eq.symm
    _ = (registry.byTrait.map fun field =>
      (field.2.filterMap Record.identity?).length).sum :=
        List.length_flatMap
    _ = (registry.byTrait.map fun field =>
      (registry.records field.1).length).sum := by
        congr 1
        apply List.map_congr_left
        intro field hfield
        rw [hidentities field hfield, h.records_of_mem hfield]
    _ = (registry.byTrait.keys.map fun traitName =>
      (registry.records traitName).length).sum := by
        rw [Assoc.keys, List.map_map]
        rfl
    _ = (registry.traits.map fun traitName =>
      (registry.records traitName).length).sum :=
        ((registry.traits_perm_keys.map _).sum_nat).symm

end Consistent

end Registry

namespace Hub

open Registry

theorem Effect.consistent {hub next : Hub} {step : Step} {event : Option Event}
    (h : Effect hub step event next) {name : String}
    (hbefore : Consistent (hub.registry name)) :
    Consistent (next.registry name) := by
  rw [h.registry_received]
  exact hbefore.receiving name _

theorem run_consistent {hub : Hub} {name : String}
    (h : Consistent (hub.registry name)) (steps : List Step) :
    Consistent ((hub.run steps).registry name) := by
  induction steps generalizing hub with
  | nil => exact h
  | cons step rest ih => exact ih ((hub.effect step).consistent h)

/-- What holds of a registry after any steps of any hub it started empty in. -/
theorem run_represents (steps : List Step) (name : String) :
    let registry := (empty.run steps).registry name
    (∀ traitName, ∀ record ∈ registry.records traitName,
        record.isValid = true ∧ record.traitName = .text traitName ∧
          record.owningCrate.isText = true ∧
            record.implementingType.isText = true ∧
          record.constraintText.isText = true) ∧
      (∀ field ∈ registry.byTrait, field.2 ≠ []) ∧
      (registry.byTrait.flatMap fun field =>
        field.2.filterMap Record.identity?).Nodup ∧
      registry.seen.Nodup ∧
      (∀ identity, identity ∈ registry.seen ↔
        ∃ traitName, ∃ record ∈ registry.records traitName,
          record.identity? = some identity) ∧
      registry.size =
        (registry.traits.map fun traitName =>
          (registry.records traitName).length).sum ∧
      registry.stats.records = registry.size ∧
      registry.traits.Pairwise (· < ·) ∧
      ∀ traitName, traitName ∈ registry.traits ↔
        registry.records traitName ≠ [] := by
  intro registry
  have hempty : Consistent (empty.registry name) := Consistent.empty
  have h : Consistent registry := run_consistent hempty steps
  refine ⟨?_, h.list_ne_nil, h.seen_perm.nodup_iff.mpr h.seen_nodup,
    h.seen_nodup, h.mem_seen_iff, h.size_eq_sum, ?_, h.pairwise_traits_lt,
    h.mem_traits_iff⟩
  · intro traitName record hrecord
    obtain ⟨identity, hvalid, rfl⟩ := h.valid_of_mem_records hrecord
    have hidentity : record.identity? = some identity :=
      (Option.filter_eq_some_iff.mp hvalid).1
    obtain ⟨htrait, hcrate, htype, hconstraint⟩ :=
      Record.identity?_eq_some hidentity
    refine ⟨?_, htrait, ?_, ?_, ?_⟩
    · rw [Record.isValid, hvalid]
      rfl
    · rw [hcrate]
      rfl
    · rw [htype]
      rfl
    · rw [hconstraint]
      rfl
  · have hrecords := records_receiving Registry.empty name (empty.history steps)
    have hregistry :
        registry = Registry.empty.receiving name (empty.history steps) :=
      run_registry empty steps name
    rw [← hregistry] at hrecords
    have hstart : Registry.empty.stats.records - Registry.empty.size = 0 := rfl
    omega

end Hub

end TraitIndex
