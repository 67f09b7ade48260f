import TraitIndex.Proofs.Registry.Contents

/-!
# A registry holds the first facts

Whatever is merged into an empty registry, and however it is cut into payloads,
crates and lists: the registry holds of each identity the fact that was stated
first, by trait and in the order of the statements, and every report counts the
identities its payload was the first to state.
-/

namespace TraitIndex.Registry

/-- A run of merges picks the first facts.  These are pinned down by what
follows on them: they are among the stated ones in the same order, no identity
occurs twice, and for each identity they have the one that is stated first. -/
theorem mergeAll_picks_firsts (payloads : List Payload) :
    let stated := payloads.flatMap Payload.facts
    let picked := firsts stated
    let (registry, reports, _) := empty.mergeAll payloads
    (∀ traitName, registry.records traitName =
        (picked.filter (·.identity.traitName = traitName)).map (·.record)) ∧
      registry.byTrait.keys = (picked.map (·.identity.traitName)).eraseDups ∧
      registry.seen = picked.map (·.identity) ∧
      picked.Sublist stated ∧ (picked.map (·.identity)).Nodup ∧
      (∀ identity, picked.find? (·.identity = identity) =
        stated.find? (·.identity = identity)) ∧
      reports = payloads.mapIdx (fun index payload =>
        payload.report
          (((payloads.take index).flatMap Payload.facts).map (·.identity))) ∧
      registry.stats = reports.foldl RegistryStats.absorb .empty := by
  intro stated picked
  have hpicked : unseen [] stated = picked := unseen_empty stated
  have hregistry := mergeAll_empty payloads
  have hreports := mergeAll_reports empty payloads
  refine ⟨fun traitName => ?_, ?_, ?_, ?_, ?_, fun identity => ?_, hreports, ?_⟩
  · rw [hregistry]
    exact records_addAll empty picked traitName
  · rw [hregistry]
    exact keys_addAll_empty picked
  · rw [hregistry]
    exact seen_addAll empty picked
  · rw [← hpicked]
    exact sublist_unseen _ _
  · rw [← hpicked]
    exact nodup_map_unseen _ _
  · rw [← hpicked]
    exact find?_unseen (by simp) stated
  · rw [hregistry]

end TraitIndex.Registry
