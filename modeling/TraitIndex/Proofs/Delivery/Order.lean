import TraitIndex.Proofs.Delivery.Buffering
import TraitIndex.Proofs.Registry.Contents
import TraitIndex.Proofs.Registry.Totals

/-!
# The order of delivery

However the same payloads are ordered, and however many of them come before the
registry is attached, the registries agree on what they know and on what they
have counted.
-/

namespace TraitIndex

/-- Two registries agree when they know the same facts and have counted alike.
They may list records and crates in different orders, and keep different ones of
several duplicates. -/
structure Registry.Agree (a b : Registry) : Prop where
  identities (traitName : String) :
    ((a.records traitName).filterMap Record.identity?).Perm
      ((b.records traitName).filterMap Record.identity?)
  traits : a.traits = b.traits
  crates (traitName crate : String) :
    crate ∈ a.cratesFor traitName ↔ crate ∈ b.cratesFor traitName
  resolved (name : String) : a.resolve name = b.resolve name
  size : a.size = b.size
  fragmentsMerged : a.stats.fragmentsMerged = b.stats.fragmentsMerged
  fragmentsRejected : a.stats.fragmentsRejected = b.stats.fragmentsRejected
  records : a.stats.records = b.stats.records
  duplicates : a.stats.duplicates = b.stats.duplicates
  dropped : a.stats.dropped = b.stats.dropped
  sources (source : String) : source ∈ a.stats.sources ↔
    source ∈ b.stats.sources
  readiness (expected : Option Int) : a.readiness expected =
    b.readiness expected

namespace Registry

theorem Agree.initialized {a b : Registry} (h : a.Agree b) :
    a.initialized.Agree b.initialized :=
  { identities := h.identities, traits := h.traits, crates := h.crates,
    resolved := h.resolved, size := h.size
    fragmentsMerged := h.fragmentsMerged
    fragmentsRejected := h.fragmentsRejected
    records := h.records, duplicates := h.duplicates, dropped := h.dropped
    sources := h.sources, readiness := h.readiness }

theorem firsts_identities_perm {facts others : List Fact}
    (h : facts.Perm others) :
    ((firsts facts).map (·.identity)).Perm
      ((firsts others).map (·.identity)) := by
  have hmem (identity : Identity) : identity ∈ (firsts facts).map (·.identity) ↔
      identity ∈ (firsts others).map (·.identity) := by
    rw [← unseen_empty, ← unseen_empty, mem_map_unseen, mem_map_unseen,
      (h.map (·.identity)).mem_iff]
  rw [← unseen_empty, ← unseen_empty] at hmem ⊢
  exact (List.perm_ext_iff_of_nodup (nodup_map_unseen _ _)
    (nodup_map_unseen _ _)).mpr hmem

theorem readiness_congr {a b : Registry} (ha : a.stats.sources.Nodup)
    (hb : b.stats.sources.Nodup) (h : ∀ source, source ∈ a.stats.sources ↔
      source ∈ b.stats.sources) (expected : Option Int) :
    a.readiness expected = b.readiness expected := by
  have hperm := (List.perm_ext_iff_of_nodup ha hb).mpr h
  rw [readiness, readiness, RegistryStats.distinctSources,
    RegistryStats.distinctSources, hperm.length_eq]

theorem nodup_keys_mergeAll_empty (payloads : List Payload) :
    (empty.mergeAll payloads).1.byTrait.keys.Nodup := by
  rw [mergeAll_empty]
  exact nodup_keys_addAll empty .nil _

section

variable {payloads others : List Payload} (h : payloads.Perm others)

include h

theorem counter_perm (counter : RegistryStats → Int) (gain : Payload → Nat)
    (hgain : ∀ stats seen payload,
      counter (stats.absorb (payload.report seen)) =
        counter stats + gain payload) :
    counter (empty.mergeAll payloads).1.stats =
      counter (empty.mergeAll others).1.stats := by
  rw [mergeAll_counter counter gain hgain, mergeAll_counter counter gain hgain,
    (h.map gain).sum_nat]

theorem sources_perm (source : String) :
    source ∈ (empty.mergeAll payloads).1.stats.sources ↔
      source ∈ (empty.mergeAll others).1.stats.sources := by
  simp only [mem_sources_mergeAll, h.mem_iff]

theorem keys_perm (traitName : String) :
    traitName ∈ (empty.mergeAll payloads).1.byTrait.keys ↔
      traitName ∈ (empty.mergeAll others).1.byTrait.keys := by
  have hidentities := firsts_identities_perm (h.flatMap_right Payload.facts)
  simp only [mergeAll_empty, mem_keys_addAll_empty, hidentities.mem_iff]

theorem size_perm :
    (empty.mergeAll payloads).1.size = (empty.mergeAll others).1.size := by
  have hidentities := firsts_identities_perm (h.flatMap_right Payload.facts)
  rw [mergeAll_empty, mergeAll_empty]
  simpa [size] using hidentities.length_eq

theorem records_perm :
    (empty.mergeAll payloads).1.stats.records =
      (empty.mergeAll others).1.stats.records := by
  have hsize := size_perm h
  have hpayloads := mergeAll_records empty payloads
  have hothers := mergeAll_records empty others
  omega

theorem mergeAll_perm :
    (empty.mergeAll payloads).1.Agree (empty.mergeAll others).1 := by
  have hidentities := firsts_identities_perm (h.flatMap_right Payload.facts)
  have hkeys := keys_perm h
  have hpayloads := nodup_keys_mergeAll_empty payloads
  have hothers := nodup_keys_mergeAll_empty others
  constructor
  case identities =>
    intro traitName
    have hfiltered := hidentities.filter (·.traitName = traitName)
    rw [← identities_records_addAll, ← identities_records_addAll] at hfiltered
    rw [mergeAll_empty, mergeAll_empty]
    exact hfiltered
  case traits => exact traits_congr hpayloads hothers hkeys
  case crates =>
    intro traitName crate
    have hcrates (payloads : List Payload) :
        crate ∈ (empty.mergeAll payloads).1.cratesFor traitName ↔
          ∃ identity ∈ (firsts (payloads.flatMap Payload.facts)).map
            (·.identity), identity.traitName = traitName ∧
              identity.owningCrate = crate := by
      rw [mergeAll_empty, ← mem_cratesFor_addAll]
      rfl
    simp only [hcrates, hidentities.mem_iff]
  case resolved => exact resolve_congr hpayloads hothers hkeys
  case size => exact size_perm h
  case fragmentsMerged =>
    have hmerged :=
      counter_perm h (·.fragmentsMerged) _ fun stats seen payload => by
      rw [RegistryStats.fragmentsMerged_absorb, Int.natCast_add]
    exact Int.ofNat_inj.mp hmerged
  case fragmentsRejected =>
    have hrejected :=
      counter_perm h (·.fragmentsRejected) _ fun stats seen payload => by
      rw [RegistryStats.fragmentsRejected_absorb, Int.natCast_add]
    exact Int.ofNat_inj.mp hrejected
  case records => exact records_perm h
  case duplicates =>
    -- Which of two records counts as the duplicate depends on the order, how
    -- many valid ones there are does not.
    have hrecords := records_perm h
    have hvalid := counter_perm h
      (fun stats => stats.records + stats.duplicates) _
      fun stats seen payload => stats.records_add_duplicates_absorb seen payload
    omega
  case dropped =>
    exact counter_perm h (·.dropped) _ fun stats seen payload =>
      stats.dropped_absorb seen payload
  case sources => exact sources_perm h
  case readiness =>
    exact readiness_congr (nodup_sources_mergeAll empty .nil payloads)
      (nodup_sources_mergeAll empty .nil others) (sources_perm h)

end

end Registry

namespace Hub

theorem deliveries_agree {payloads others : List Payload}
    (h : payloads.Perm others) (registryName channelName : String)
    (split otherSplit : Nat) :
    ((empty.run (deliveries registryName channelName payloads split)).registry
      registryName).Agree
      ((empty.run (deliveries registryName channelName others
        otherSplit)).registry
        registryName) := by
  rw [(run_deliveries registryName channelName payloads split).1,
    (run_deliveries registryName channelName others otherSplit).1]
  exact (Registry.mergeAll_perm h).initialized

def fooFragment (source : String) (synthetic : Bool) : Payload :=
  .fragment (.ofRecords [("core", [{ Record.blank "core" with
    traitName := .text "Display", implementingType := .text "Foo",
    synthetic := .bool synthetic }])] source)

theorem deliveries_agree_reversed :
    let payloads :=
      [fooFragment "a.js" false, .other .null, fooFragment "" true]
    payloads.Perm payloads.reverse ∧
      ((empty.run (deliveries "registry" "channel" payloads 2)).registry
        "registry").Agree
        ((empty.run (deliveries "registry" "channel" payloads.reverse
          0)).registry "registry") :=
  ⟨(List.reverse_perm _).symm,
    deliveries_agree (List.reverse_perm _).symm "registry" "channel" 2 0⟩

end Hub

end TraitIndex
