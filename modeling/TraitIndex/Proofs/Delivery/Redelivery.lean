import TraitIndex.Proofs.Delivery.Receivers
import TraitIndex.Proofs.Registry.Totals
import TraitIndex.Registry.Query

/-!
# Payloads that come again

A registry never forgets what it has merged: neither an identity nor a source.
So a fragment that comes again, however much later, adds nothing, and only the
counters show that it came.
-/

namespace TraitIndex

/-- What of a report does not depend on what was seen before. -/
theorem Payload.report_of_accepted {payload : Payload}
    (h : payload.isAccepted = true) (seen : List Identity) :
    (payload.report seen).source = payload.sourceId ∧
      (payload.report seen).dropped = payload.droppings ∧
      (payload.report seen).total =
        payload.facts.length + payload.droppings := by
  simp only [Payload.report, h, if_true, MergeReport.total, true_and]
  omega

namespace Registry

/-! ## Remembering -/

/-- A registry remembers a payload when it has seen all that the payload states
and knows where it came from. -/
structure Remembers (registry : Registry) (payload : Payload) : Prop where
  mem_seen : ∀ fact ∈ payload.facts, fact.identity ∈ registry.seen
  mem_sources : payload.sourceId ∈ registry.stats.sources

variable {registry : Registry} {payload : Payload}

theorem Remembers.mergeAll (h : Remembers registry payload)
    (payloads : List Payload) :
    Remembers (registry.mergeAll payloads).1 payload where
  mem_seen fact hfact :=
    (mem_seen_mergeAll _ _ _).mpr (.inl (h.mem_seen fact hfact))
  mem_sources := (mem_sources_mergeAll _ _ _).mpr (.inl h.mem_sources)

/-- What is merged is remembered. -/
theorem remembers_merge (haccepted : payload.isAccepted = true) :
    Remembers (registry.merge payload).registry payload where
  mem_seen _ hfact := registry.mem_seen_of_stated (List.mem_map_of_mem hfact)
  mem_sources := by
    rw [stats_merge, RegistryStats.mem_sources_absorb]
    exact .inr ⟨haccepted, rfl⟩

theorem remembers_mergeAll (haccepted : payload.isAccepted = true)
    {payloads : List Payload} (h : payload ∈ payloads) :
    Remembers (registry.mergeAll payloads).1 payload := by
  obtain ⟨earlier, later, rfl⟩ := List.append_of_mem h
  rw [(mergeAll_append registry earlier (payload :: later)).1]
  exact (remembers_merge haccepted).mergeAll later

theorem remembers_receiving (haccepted : payload.isAccepted = true)
    {name : String} {history : List Event}
    (h : payload ∈ received (.registry name) history) :
    Remembers (registry.receiving name history) payload := by
  have hmerged : Remembers
      (registry.mergeAll (received (.registry name) history)).1 payload :=
    remembers_mergeAll haccepted h
  unfold receiving
  split
  · exact ⟨hmerged.mem_seen, hmerged.mem_sources⟩
  · exact hmerged

/-! ## Merging what is remembered -/

theorem report_of_remembers (h : Remembers registry payload)
    (haccepted : payload.isAccepted = true) :
    (registry.merge payload).report =
      ⟨payload.sourceId, 0, payload.facts.length, payload.droppings,
        false⟩ := by
  have hnew : (newIdentities registry.seen payload.facts).card = 0 := by
    rw [card_newIdentities, unseen_eq_nil h.mem_seen, List.length_nil]
  rw [(registry.merge_eq payload).1, Payload.report, if_pos haccepted, hnew,
    Int.natCast_zero, Int.sub_zero]

theorem merge_of_remembers (h : Remembers registry payload)
    (haccepted : payload.isAccepted = true) :
    (registry.merge payload).registry =
      { registry with
        stats := { registry.stats with
          fragmentsMerged := registry.stats.fragmentsMerged + 1
          duplicates := registry.stats.duplicates + payload.facts.length
          dropped := registry.stats.dropped + payload.droppings } } := by
  rw [(merge_of_seen h.mem_seen).2, report_of_remembers h haccepted, absorb]
  simp [RegistryStats.absorb, RegistryStats.addSource_of_mem h.mem_sources]

end Registry

namespace Hub

/-- A fragment that comes again, whatever has happened in between, changes
nothing but how many fragments, duplicates and droppings have been counted.  It
is reported on as the first time, only that all its valid records are duplicates
now. -/
theorem merge_received_again (steps : List Step) (name : String)
    (crates : Assoc String Entry) (source : Value)
    (h : .fragment ⟨.byCrate crates, source⟩ ∈
      received (.registry name) (empty.history steps)) :
    let payload : Payload := .fragment ⟨.byCrate crates, source⟩
    let registry := (empty.run steps).registry name
    let again := registry.merge payload
    again.registry =
        { registry with
          stats := { registry.stats with
            fragmentsMerged := registry.stats.fragmentsMerged + 1
            duplicates := registry.stats.duplicates + again.report.duplicates
            dropped := registry.stats.dropped + again.report.dropped } } ∧
      (∀ traitName, again.registry.records traitName =
          registry.records traitName ∧
        again.registry.cratesFor traitName = registry.cratesFor traitName) ∧
      again.registry.traits = registry.traits ∧ again.registry.size =
        registry.size ∧
      (∀ expected, again.registry.readiness expected =
        registry.readiness expected) ∧
      again.report.added = 0 ∧ again.report.rejected = false ∧
      again.report.duplicates =
        (crates.flatMap fun field => field.2.facts).length ∧
      ∀ earlier : Registry,
        again.report.source = (earlier.merge payload).report.source ∧
        again.report.dropped = (earlier.merge payload).report.dropped ∧
        again.report.total = (earlier.merge payload).report.total := by
  intro payload registry again
  have haccepted : payload.isAccepted = true := rfl
  have hremembers : Registry.Remembers registry payload := by
    have hreceiving :
        registry = Registry.empty.receiving name (empty.history steps) :=
      run_registry empty steps name
    rw [hreceiving]
    exact Registry.remembers_receiving haccepted h
  have hreport := Registry.report_of_remembers hremembers haccepted
  have hregistry := Registry.merge_of_remembers hremembers haccepted
  refine ⟨?_, fun traitName => ?_, ?_, ?_, fun expected => ?_, ?_, ?_, ?_,
    fun earlier => ?_⟩
  · simp only [again, hregistry, hreport]
  · simp only [again, hregistry]
    exact ⟨rfl, rfl⟩
  · simp only [again, hregistry]
    rfl
  · simp only [again, hregistry]
    rfl
  · simp only [again, hregistry]
    rfl
  · simp only [again, hreport]
  · simp only [again, hreport]
  · simp only [again, hreport]
    rfl
  · obtain ⟨hsource, hdropped, htotal⟩ :=
      Payload.report_of_accepted haccepted registry.seen
    obtain ⟨hsource', hdropped', htotal'⟩ :=
      Payload.report_of_accepted haccepted earlier.seen
    simp only [again, (registry.merge_eq payload).1,
      (earlier.merge_eq payload).1]
    exact ⟨hsource.trans hsource'.symm, hdropped.trans hdropped'.symm,
      htotal.trans htotal'.symm⟩

/-- Entries that state one fact twice, and hold two things that are no
records. -/
def repeatingEntries : Assoc String Entry :=
  let foo : Element := .record { Record.blank "core" with
    traitName := .text "Display", implementingType := .text "Foo" }
  [("core", .listed [foo, .other .null, foo]), ("std", .other (.int 3))]

theorem merge_received_again_buffered :
    let payload : Payload := .fragment ⟨.byCrate repeatingEntries, .text ""⟩
    let steps : List Step :=
      [.deliver "channel" payload, .attach "registry" "channel",
        .deliver "channel" (.other .null)]
    let registry := (empty.run steps).registry "registry"
    payload ∈ received (.registry "registry") (empty.history steps) ∧
      (registry.merge payload).report.added = 0 ∧
      (registry.merge payload).report.duplicates = 2 ∧
      (registry.merge payload).registry.size = registry.size := by
  intro payload steps registry
  have h : payload ∈ received (.registry "registry") (empty.history steps) :=
    List.mem_cons_self
  obtain ⟨-, -, -, hsize, -, hadded, -, hduplicates, -⟩ :=
    merge_received_again steps "registry" repeatingEntries (.text "") h
  exact ⟨h, hadded, hduplicates.trans (by decide +kernel), hsize⟩

end Hub

end TraitIndex
