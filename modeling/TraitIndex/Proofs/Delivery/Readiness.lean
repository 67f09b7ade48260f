import TraitIndex.Proofs.Delivery.Receivers
import TraitIndex.Proofs.Registry.Totals
import TraitIndex.Registry.Query

/-!
# How many fragments have come

Every merge is reported on, and a registry counts the sources of the reports on
what it did not reject, each once.  So what has been received never goes back,
whatever is merged later, and a registry that is ready stays ready.
-/

namespace TraitIndex

/-! ## Readiness -/

namespace Readiness

variable (received expected : Int)

theorem isReady_iff : (Readiness.mk received (some expected)).isReady = true ↔
    expected ≤ received :=
  decide_eq_true_iff

theorem isReady_iff_missing :
    (Readiness.mk received (some expected)).isReady = true ↔
      (Readiness.mk received (some expected)).missing = some 0 := by
  rw [isReady_iff, missing, Option.map_some, Option.some.injEq]
  dsimp only
  omega

theorem exists_missing_le {more : Int} (h : received ≤ more) :
    ∃ before after, (Readiness.mk received (some expected)).missing =
        some before ∧
      (Readiness.mk more (some expected)).missing = some after ∧
        after ≤ before := by
  refine ⟨_, _, rfl, rfl, ?_⟩
  dsimp only
  omega

end Readiness

/-! ## Counting sources -/

namespace RegistryStats

theorem length_addSource (sources : List String) {source : String}
    (h : source ≠ "") :
    (addSource sources source).length =
      sources.length + if source ∈ sources then 0 else 1 := by
  by_cases hsource : source ∈ sources <;> simp [addSource, h, hsource]

theorem distinctSources_absorb (stats : RegistryStats) {report : MergeReport}
    (h : report.rejected = false → report.source ≠ "") :
    (stats.absorb report).distinctSources =
      stats.distinctSources +
        if report.rejected = true ∨ report.source ∈ stats.sources then 0
        else 1 := by
  cases hrejected : report.rejected with
  | true => simp [absorb, hrejected, distinctSources]
  | false =>
      simp [absorb, hrejected, distinctSources,
        length_addSource _ (h hrejected)]

/-- Counters that have counted reports: the sources are those of the reports on
what was merged. -/
structure Tallies (stats : RegistryStats) (reports : List MergeReport) :
    Prop where
  mem_sources_iff (source : String) : source ∈ stats.sources ↔
    ∃ report ∈ reports, report.rejected = false ∧ report.source = source
  nodup_sources : stats.sources.Nodup
  fragmentsMerged_eq : stats.fragmentsMerged = reports.countP fun report =>
    !report.rejected
  source_ne_empty : ∀ report ∈ reports, report.rejected = false →
    report.source ≠ ""

variable {stats : RegistryStats} {reports : List MergeReport}

theorem Tallies.empty : Tallies .empty [] where
  mem_sources_iff source := by simp [RegistryStats.empty]
  nodup_sources := List.nodup_nil
  fragmentsMerged_eq := rfl
  source_ne_empty _ h := absurd h List.not_mem_nil

theorem Tallies.absorb (h : Tallies stats reports) {report : MergeReport}
    (hreport : report.rejected = false → report.source ≠ "") :
    Tallies (stats.absorb report) (reports ++ [report]) where
  mem_sources_iff source := by
    cases hrejected : report.rejected with
    | true =>
        simp only [RegistryStats.absorb, hrejected, if_true, h.mem_sources_iff,
          List.mem_append, List.mem_singleton, or_and_right, exists_or,
          exists_eq_left, Bool.true_eq_false, false_and, or_false]
    | false =>
        simp only [RegistryStats.absorb, hrejected, Bool.false_eq_true,
          if_false, mem_addSource, h.mem_sources_iff, List.mem_append,
          List.mem_singleton, or_and_right, exists_or, exists_eq_left, true_and,
          and_iff_left (hreport hrejected), eq_comm (a := source)]
  nodup_sources := nodup_sources_absorb stats h.nodup_sources report
  fragmentsMerged_eq := by
    rw [List.countP_append, ← h.fragmentsMerged_eq, List.countP_singleton]
    cases hrejected : report.rejected <;> simp [RegistryStats.absorb, hrejected]
  source_ne_empty other hother := by
    rw [List.mem_append, List.mem_singleton] at hother
    obtain hother | rfl := hother
    · exact h.source_ne_empty other hother
    · exact hreport

theorem Tallies.foldl (h : Tallies stats reports) {more : List MergeReport}
    (hmore : ∀ report ∈ more, report.rejected = false → report.source ≠ "") :
    Tallies (more.foldl RegistryStats.absorb stats) (reports ++ more) := by
  induction more generalizing stats reports with
  | nil => rwa [List.append_nil]
  | cons report rest ih =>
      obtain ⟨hreport, hrest⟩ := List.forall_mem_cons.mp hmore
      rw [List.foldl_cons, List.append_cons]
      exact ih (h.absorb hreport) hrest

theorem Tallies.distinctSources_le (h : Tallies stats reports) :
    stats.distinctSources ≤ stats.fragmentsMerged := by
  have hsubset : stats.sources ⊆
      (reports.filter fun report => !report.rejected).map (·.source) := by
    intro source hsource
    obtain ⟨report, hreport, hrejected, rfl⟩ :=
      (h.mem_sources_iff source).mp hsource
    exact List.mem_map_of_mem
      (List.mem_filter.mpr ⟨hreport, by simp [hrejected]⟩)
  have hlength := (List.subperm_of_subset h.nodup_sources hsubset).length_le
  rwa [List.length_map, ← List.countP_eq_length_filter, ← h.fragmentsMerged_eq]
    at hlength

theorem Tallies.distinctSources_pos (h : Tallies stats reports)
    (hmerged : 0 < stats.fragmentsMerged) : 0 < stats.distinctSources := by
  rw [h.fragmentsMerged_eq, List.countP_pos_iff] at hmerged
  obtain ⟨report, hreport, hrejected⟩ := hmerged
  have hsource := (h.mem_sources_iff report.source).mpr
    ⟨report, hreport, by simpa using hrejected, rfl⟩
  exact List.length_pos_of_mem hsource

theorem distinctSources_foldl_le (stats : RegistryStats)
    {reports : List MergeReport}
    (h : ∀ report ∈ reports, report.rejected = false → report.source ≠ "") :
    stats.distinctSources ≤ (reports.foldl absorb stats).distinctSources := by
  induction reports generalizing stats with
  | nil => exact Nat.le_refl _
  | cons report rest ih =>
      obtain ⟨hreport, hrest⟩ := List.forall_mem_cons.mp h
      refine Nat.le_trans ?_ (ih _ hrest)
      rw [distinctSources_absorb stats hreport]
      exact Nat.le_add_right _ _

end RegistryStats

/-! ## Reports -/

theorem Payload.source_report_ne_empty (seen : List Identity)
    (payload : Payload) (h : (payload.report seen).rejected = false) :
    (payload.report seen).source ≠ "" := by
  unfold Payload.report at h ⊢
  split at h
  · next haccepted =>
      rw [if_pos haccepted]
      exact payload.sourceId_ne_empty
  · cases h

namespace Registry

theorem source_report_merge_ne_empty (registry : Registry) (payload : Payload)
    (h : (registry.merge payload).report.rejected = false) :
    (registry.merge payload).report.source ≠ "" := by
  rw [(registry.merge_eq payload).1] at h ⊢
  exact payload.source_report_ne_empty _ h

theorem source_ne_empty_of_mergeAll (registry : Registry)
    (payloads : List Payload) :
    ∀ report ∈ (registry.mergeAll payloads).2.1, report.rejected = false →
      report.source ≠ "" := by
  rw [mergeAll_reports]
  intro report hreport
  obtain ⟨index, hindex, rfl⟩ := List.mem_mapIdx.mp hreport
  exact Payload.source_report_ne_empty _ _

theorem stats_mergeAll (registry : Registry) (payloads : List Payload) :
    (registry.mergeAll payloads).1.stats =
      (registry.mergeAll payloads).2.1.foldl RegistryStats.absorb
        registry.stats := by
  rw [mergeAll_registry, foldl_absorb, stats_addAll]

end Registry

namespace Hub

def stepReports (hub : Hub) (name : String) : Step → List MergeReport
  | .deliver channelName payload =>
      if (hub.channel channelName).entryPoint = some (.registry name) then
        [((hub.registry name).merge payload).report]
      else []
  | .attach registryName channelName =>
      if registryName = name ∧ hub.canAttach registryName channelName =
        true then
        hub.drainReports registryName channelName
      else []
  | .merge registryName payload =>
      if registryName = name then [((hub.registry name).merge payload).report]
      else []
  | .install _ _ | .takePending _ => []

def reports (hub : Hub) (name : String) : List Step → List MergeReport
  | [] => []
  | step :: rest =>
      hub.stepReports name step ++ (hub.after step).reports name rest

theorem stats_setRegistry_merge (hub : Hub) (name other : String)
    (payload : Payload) :
    ((hub.setRegistry other
      ((hub.registry other).merge payload).registry).registry name).stats =
      (if other = name then [((hub.registry name).merge payload).report]
        else []).foldl
        RegistryStats.absorb (hub.registry name).stats := by
  rw [registry_setRegistry]
  by_cases hname : other = name
  · subst hname
    rw [if_pos rfl, if_pos rfl, Registry.stats_merge, (Registry.merge_eq _ _).1]
    rfl
  · rw [if_neg (Ne.symm hname), if_neg hname]
    rfl

/-- A step counts what it reports, and nothing else. -/
theorem stats_after (hub : Hub) (name : String) (step : Step) :
    ((hub.after step).registry name).stats =
      (hub.stepReports name step).foldl RegistryStats.absorb
        (hub.registry name).stats := by
  cases step with
  | deliver channelName payload =>
      cases hentry : (hub.channel channelName).entryPoint with
      | none =>
          rw [after_deliver_buffering hentry, registry_setChannel, stepReports,
            hentry, if_neg nofun]
          rfl
      | some entryPoint =>
          rw [after_deliver_live hentry, stepReports, hentry]
          cases entryPoint with
          | sink sinkName => rfl
          | registry other =>
              simp only [hand_registry, Option.some.injEq,
                EntryPoint.registry.injEq]
              exact hub.stats_setRegistry_merge name other payload
  | attach registryName channelName =>
      cases hcan : hub.canAttach registryName channelName with
      | false =>
          rw [after_attach_refused hcan, stepReports, if_neg (by simp [hcan])]
          rfl
      | true =>
          rw [after_attach hcan, registry_setRegistry, registry_setChannel,
            stepReports]
          by_cases hname : registryName = name
          · subst hname
            rw [if_pos rfl, if_pos ⟨rfl, hcan⟩]
            exact Registry.stats_mergeAll _ _
          · rw [if_neg (Ne.symm hname), if_neg fun h => hname h.1]
            rfl
  | merge other payload => exact hub.stats_setRegistry_merge name other payload
  | install channelName sinkName =>
      rw [(hub.effect _).registry_eq (by simp [target?])]
      rfl
  | takePending channelName => rfl

theorem stats_run (hub : Hub) (name : String) (steps : List Step) :
    ((hub.run steps).registry name).stats =
      (hub.reports name steps).foldl RegistryStats.absorb
        (hub.registry name).stats := by
  induction steps generalizing hub with
  | nil => rfl
  | cons step rest ih =>
      rw [reports, List.foldl_append, ← stats_after]
      exact ih (hub.after step)

theorem source_ne_empty_of_stepReports (hub : Hub) (name : String)
    (step : Step) :
    ∀ report ∈ hub.stepReports name step, report.rejected = false →
      report.source ≠ "" := by
  have hmerge (payload : Payload) :
      ∀ report ∈ [((hub.registry name).merge payload).report],
        report.rejected = false → report.source ≠ "" := by
    intro report hreport
    obtain rfl := List.mem_singleton.mp hreport
    exact (hub.registry name).source_report_merge_ne_empty payload
  unfold stepReports
  split
  · split
    · exact hmerge _
    · exact fun _ h => absurd h List.not_mem_nil
  · split
    · exact Registry.source_ne_empty_of_mergeAll _ _
    · exact fun _ h => absurd h List.not_mem_nil
  · split
    · exact hmerge _
    · exact fun _ h => absurd h List.not_mem_nil
  · exact fun _ h => absurd h List.not_mem_nil
  · exact fun _ h => absurd h List.not_mem_nil

theorem source_ne_empty_of_reports (hub : Hub) (name : String)
    (steps : List Step) :
    ∀ report ∈ hub.reports name steps, report.rejected = false →
      report.source ≠ "" := by
  induction steps generalizing hub with
  | nil => exact fun _ h => absurd h List.not_mem_nil
  | cons step rest ih =>
      intro report hreport
      rw [reports, List.mem_append] at hreport
      obtain hstep | hrest := hreport
      · exact hub.source_ne_empty_of_stepReports name step report hstep
      · exact ih (hub.after step) report hrest

theorem run_tallies (name : String) (steps : List Step) :
    RegistryStats.Tallies ((empty.run steps).registry name).stats
      (empty.reports name steps) := by
  rw [stats_run]
  have hempty : RegistryStats.Tallies (empty.registry name).stats [] :=
    RegistryStats.Tallies.empty
  exact hempty.foldl (empty.source_ne_empty_of_reports name steps)

/-- After any steps a registry has received the sources of what it merged, each
once, and whatever it has received it goes on having. -/
theorem run_readiness (steps later : List Step) (name : String) :
    let hub := empty.run steps
    let registry := hub.registry name
    let reports := empty.reports name steps
    let next := (hub.run later).registry name
    (∀ source, source ∈ registry.stats.sources ↔
        ∃ report ∈ reports, report.rejected = false ∧ report.source = source) ∧
      registry.stats.sources.Nodup ∧
      (∀ report ∈ reports, report.rejected = false → report.source ≠ "") ∧
      registry.stats.fragmentsMerged =
        reports.countP (fun report => !report.rejected) ∧
      (∀ expected, (registry.readiness expected).received =
        registry.stats.sources.length) ∧
      (∀ expected, (registry.readiness expected).received ≤
        registry.stats.fragmentsMerged) ∧
      (0 < registry.stats.fragmentsMerged →
        ∀ expected, 1 ≤ (registry.readiness expected).received) ∧
      (∀ payload expected,
        let merged := registry.merge payload
        (merged.registry.readiness expected).received =
          (registry.readiness expected).received +
            if merged.report.rejected = true ∨ ∃ report ∈ reports,
              report.rejected = false ∧
                report.source = merged.report.source then 0 else 1) ∧
      (∀ expected : Int,
        ((registry.readiness (some expected)).isReady = true →
            (next.readiness (some expected)).isReady = true) ∧
          (∃ before after, (registry.readiness (some expected)).missing =
              some before ∧
            (next.readiness (some expected)).missing = some after ∧
              after ≤ before) ∧
          ((registry.readiness (some expected)).isReady = true ↔
            (registry.readiness (some expected)).missing = some 0) ∧
          ((registry.readiness (some expected)).isReady = true ↔
            expected ≤ (registry.readiness (some expected)).received)) ∧
      (registry.readiness none).isReady = false ∧
      (registry.readiness none).missing = none := by
  intro hub registry reports next
  have htallies : registry.stats.Tallies reports := run_tallies name steps
  have hgrows : registry.stats.distinctSources ≤
      next.stats.distinctSources := by
    have hnext : next.stats =
        (hub.reports name later).foldl RegistryStats.absorb registry.stats :=
      stats_run hub name later
    rw [hnext]
    exact registry.stats.distinctSources_foldl_le
      (hub.source_ne_empty_of_reports name later)
  have hreceived : (registry.stats.distinctSources : Int) ≤
      next.stats.distinctSources :=
    Int.ofNat_le.mpr hgrows
  refine ⟨htallies.mem_sources_iff, htallies.nodup_sources,
    htallies.source_ne_empty, htallies.fragmentsMerged_eq, fun _ => rfl,
    fun _ => Int.ofNat_le.mpr htallies.distinctSources_le, fun hmerged _ =>
      Int.ofNat_le.mpr (htallies.distinctSources_pos hmerged), ?_, ?_, rfl, rfl⟩
  · intro payload expected merged
    have hstats : merged.registry.stats =
        registry.stats.absorb merged.report := by
      rw [Registry.stats_merge, ← (registry.merge_eq payload).1]
    rw [Registry.readiness, Registry.readiness, hstats,
      RegistryStats.distinctSources_absorb _
      (registry.source_report_merge_ne_empty payload)]
    simp only [htallies.mem_sources_iff]
    split <;> rfl
  · intro expected
    refine ⟨fun hready => ?_, Readiness.exists_missing_le _ expected hreceived,
      Readiness.isReady_iff_missing _ expected,
      Readiness.isReady_iff _ expected⟩
    exact (Readiness.isReady_iff _ _).mpr
      (((Readiness.isReady_iff _ _).mp hready).trans hreceived)

end Hub

end TraitIndex
