import TraitIndex.Proofs.Registry.Merging

/-!
# What a run of merges adds up to

A counter that grows with each report by what the payload alone decides grows
over a run by the sum, whatever was registered before.  How many records a
payload adds is not decided by it alone, but the number of all records is the
size of the registry.
-/

namespace TraitIndex

theorem contentId_ne_empty (identities : List Identity) :
    contentId identities ≠ "" := by
  intro h
  have hlength := congrArg String.length h
  simp [contentId] at hlength

theorem Payload.sourceId_ne_empty (payload : Payload) :
    payload.sourceId ≠ "" := by
  unfold Payload.sourceId
  split
  · exact contentId_ne_empty _
  · next h => exact h

namespace RegistryStats

variable (stats : RegistryStats) (seen : List Identity) (payload : Payload)

theorem fragmentsMerged_absorb :
    (stats.absorb (payload.report seen)).fragmentsMerged =
      stats.fragmentsMerged + if payload.isAccepted then 1 else 0 := by
  cases h : payload.isAccepted <;>
    simp [absorb, Payload.report, h, MergeReport.rejection]

theorem fragmentsRejected_absorb :
    (stats.absorb (payload.report seen)).fragmentsRejected =
      stats.fragmentsRejected + if payload.isAccepted then 0 else 1 := by
  cases h : payload.isAccepted <;>
    simp [absorb, Payload.report, h, MergeReport.rejection]

theorem records_absorb :
    (stats.absorb (payload.report seen)).records =
      stats.records + (unseen seen payload.facts).length := by
  cases h : payload.isAccepted with
  | true => simp [absorb, Payload.report, h, card_newIdentities]
  | false =>
      simp [absorb, Payload.report, h, MergeReport.rejection,
        payload.facts_eq_nil_of_refused h]

/-- A valid record is either added or a duplicate. -/
theorem records_add_duplicates_absorb :
    (stats.absorb (payload.report seen)).records +
      (stats.absorb (payload.report seen)).duplicates =
      stats.records + stats.duplicates + payload.facts.length := by
  cases h : payload.isAccepted with
  | true =>
      simp only [absorb, Payload.report, h, if_true]
      simp only [Bool.false_eq_true, if_false]
      omega
  | false =>
      simp [absorb, Payload.report, h, MergeReport.rejection,
        payload.facts_eq_nil_of_refused h]

theorem dropped_absorb :
    (stats.absorb (payload.report seen)).dropped =
      stats.dropped + payload.droppings := by
  cases h : payload.isAccepted with
  | true => simp [absorb, Payload.report, h]
  | false =>
      have hcrates : payload.crates? = none := by
        simpa [Payload.isAccepted] using h
      simp [absorb, Payload.report, h, MergeReport.rejection,
        Payload.droppings, hcrates]

theorem mem_sources_absorb {source : String} :
    source ∈ (stats.absorb (payload.report seen)).sources ↔
      source ∈ stats.sources ∨
        (payload.isAccepted = true ∧ source = payload.sourceId) := by
  cases h : payload.isAccepted with
  | true =>
      simp only [absorb, Payload.report, h, if_true, Bool.false_eq_true,
        if_false, mem_addSource, true_and,
        and_iff_left payload.sourceId_ne_empty]
  | false => simp [absorb, Payload.report, h, MergeReport.rejection]

theorem nodup_sources_absorb (h : stats.sources.Nodup) (report : MergeReport) :
    (stats.absorb report).sources.Nodup := by
  unfold absorb
  split
  · exact h
  · exact nodup_addSource h _

end RegistryStats

namespace Registry

theorem stats_merge (registry : Registry) (payload : Payload) :
    (registry.merge payload).registry.stats =
      registry.stats.absorb (payload.report registry.seen) := by
  rw [(registry.merge_eq payload).2]
  exact congrArg (RegistryStats.absorb · _) (registry.stats_addAll _)

theorem mergeAll_counter (counter : RegistryStats → Int) (gain : Payload → Nat)
    (hgain : ∀ stats seen payload,
      counter (stats.absorb (payload.report seen)) =
        counter stats + gain payload)
    (registry : Registry) (payloads : List Payload) :
    counter (registry.mergeAll payloads).1.stats =
      counter registry.stats + (payloads.map gain).sum := by
  induction payloads generalizing registry with
  | nil => simp [mergeAll]
  | cons payload rest ih =>
      have hrest := ih (registry.merge payload).registry
      rw [stats_merge, hgain] at hrest
      simp only [mergeAll, hrest, List.map_cons, List.sum_cons]
      omega

/-- The records counted grow with the registry. -/
theorem mergeAll_records (registry : Registry) (payloads : List Payload) :
    (registry.mergeAll payloads).1.stats.records -
      (registry.mergeAll payloads).1.size =
      registry.stats.records - registry.size := by
  induction payloads generalizing registry with
  | nil => rfl
  | cons payload rest ih =>
      have hsize : (registry.merge payload).registry.size =
          registry.size + (unseen registry.seen payload.facts).length := by
        simp [size, seen_merge]
      have hrest := ih (registry.merge payload).registry
      rw [stats_merge, RegistryStats.records_absorb, hsize] at hrest
      simp only [mergeAll, hrest]
      omega

theorem mem_sources_mergeAll (registry : Registry) (payloads : List Payload)
    (source : String) :
    source ∈ (registry.mergeAll payloads).1.stats.sources ↔
      source ∈ registry.stats.sources ∨
        ∃ payload ∈ payloads, payload.isAccepted = true ∧
          source = payload.sourceId := by
  induction payloads generalizing registry with
  | nil => simp [mergeAll]
  | cons payload rest ih =>
      have hrest := ih (registry.merge payload).registry
      rw [stats_merge, RegistryStats.mem_sources_absorb] at hrest
      simp only [mergeAll, hrest, List.mem_cons, exists_eq_or_imp, or_assoc]

theorem nodup_sources_mergeAll (registry : Registry)
    (h : registry.stats.sources.Nodup) (payloads : List Payload) :
    (registry.mergeAll payloads).1.stats.sources.Nodup := by
  induction payloads generalizing registry with
  | nil => exact h
  | cons payload rest ih =>
      apply ih
      rw [stats_merge]
      exact RegistryStats.nodup_sources_absorb _ h _

end Registry

end TraitIndex
