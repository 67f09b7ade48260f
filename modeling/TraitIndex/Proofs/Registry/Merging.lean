import TraitIndex.Proofs.Registry.Facts

/-!
# What a merge does

A merge takes up the facts of its payload that the registry has not seen, in the
order in which they are stated, and reports how many these are, how many it knew
already and how much it dropped.  A run of merges takes up the first facts of
all payloads together.
-/

namespace TraitIndex

namespace Registry

/-- The registry with some facts it has not seen. -/
def addAll (registry : Registry) (facts : List Fact) : Registry :=
  facts.foldl (fun registry fact => registry.add fact.identity fact.record)
    registry

@[simp] theorem addAll_nil (registry : Registry) :
    registry.addAll [] = registry := rfl

@[simp] theorem addAll_cons (registry : Registry) (fact : Fact)
    (facts : List Fact) :
    registry.addAll (fact :: facts) =
      (registry.add fact.identity fact.record).addAll facts := rfl

theorem addAll_append (registry : Registry) (earlier later : List Fact) :
    registry.addAll (earlier ++ later) =
      (registry.addAll earlier).addAll later := by
  rw [addAll, List.foldl_append]
  rfl

@[simp] theorem seen_addAll (registry : Registry) (facts : List Fact) :
    (registry.addAll facts).seen = registry.seen ++ facts.map (·.identity) := by
  induction facts generalizing registry with
  | nil => simp
  | cons fact rest ih =>
      rw [addAll_cons, ih]
      simp [add]

@[simp] theorem stats_addAll (registry : Registry) (facts : List Fact) :
    (registry.addAll facts).stats = registry.stats := by
  induction facts generalizing registry with
  | nil => rfl
  | cons fact rest ih => exact ih _

theorem records_addAll (registry : Registry) (facts : List Fact)
    (traitName : String) :
    (registry.addAll facts).records traitName =
      registry.records traitName ++
        (facts.filter (·.identity.traitName = traitName)).map (·.record) := by
  induction facts generalizing registry with
  | nil => simp
  | cons fact rest ih =>
      rw [addAll_cons, ih, records_add]
      by_cases h : fact.identity.traitName = traitName
      · simp [h]
      · simp [h, Ne.symm h]

/-- The traits that have come first come first, and each is there once. -/
theorem keys_addAll (registry : Registry) (facts : List Fact) :
    (registry.addAll facts).byTrait.keys =
      registry.byTrait.keys ++
        ((facts.map (·.identity.traitName)).filter
          fun traitName =>
            !registry.byTrait.keys.contains traitName).eraseDups := by
  induction facts generalizing registry with
  | nil => simp
  | cons fact rest ih =>
      rw [addAll_cons, ih, List.map_cons, List.filter_cons]
      by_cases h : fact.identity.traitName ∈ registry.byTrait.keys
      · have hkeys : (registry.add fact.identity fact.record).byTrait.keys =
            registry.byTrait.keys := Assoc.keys_insert_of_mem h _
        simp [hkeys, h]
      · have hkeys : (registry.add fact.identity fact.record).byTrait.keys =
            registry.byTrait.keys ++ [fact.identity.traitName] :=
          Assoc.keys_insert_of_not_mem h _
        simp only [hkeys, List.contains_eq_mem, h, decide_false,
          Bool.not_false, if_true, List.eraseDups_cons, List.filter_filter,
          List.append_assoc, List.singleton_append]
        congr 3
        apply List.filter_congr
        intro traitName _
        rw [Bool.eq_iff_iff]
        simp [and_comm]

end Registry

/-! ## One payload -/

namespace Merging

def advance (merging : Merging) (facts : List Fact) (droppings : Nat) :
    Merging :=
  let added := unseen merging.registry.seen facts
  { registry := merging.registry.addAll added
    added := merging.added + added.length
    duplicates := merging.duplicates + (facts.length - added.length)
    dropped := merging.dropped + droppings
    identities := merging.identities ++ facts.map (·.identity) }

@[simp] theorem advance_nil (merging : Merging) :
    merging.advance [] 0 = merging := by
  simp [advance]

theorem advance_advance (merging : Merging) (earlier later : List Fact)
    (few more : Nat) :
    (merging.advance earlier few).advance later more =
      merging.advance (earlier ++ later) (few + more) := by
  have hearlier := length_unseen_le merging.registry.seen earlier
  have hlater := length_unseen_le
    (merging.registry.seen ++ (unseen merging.registry.seen earlier).map
      (·.identity)) later
  simp only [advance, Registry.seen_addAll, unseen_append,
    Registry.addAll_append, mk.injEq, List.map_append, List.length_append,
    List.append_assoc, true_and, and_true]
  omega

theorem drop_eq_advance (merging : Merging) :
    merging.drop = merging.advance [] 1 := by
  simp [drop, advance]

theorem record_eq_advance (merging : Merging) (fact : Fact) :
    merging.record fact.identity fact.record = merging.advance [fact] 0 := by
  by_cases h : fact.identity ∈ merging.registry.seen
  · simp [record, advance, h, unseen_cons_of_mem h]
  · simp [record, advance, h, unseen_cons_of_not_mem h]

theorem element_eq_advance (merging : Merging) (element : Element) :
    merging.element element =
      merging.advance element.fact?.toList
        (if element.fact?.isNone then 1 else 0) := by
  cases element with
  | other value => exact merging.drop_eq_advance
  | record r =>
      cases h : r.validIdentity? with
      | none =>
          rw [Element.fact?_of_invalid h]
          simp only [Merging.element, h]
          exact merging.drop_eq_advance
      | some identity =>
          rw [Element.fact?_of_valid h]
          simp only [Merging.element, h]
          exact merging.record_eq_advance ⟨identity, r, h⟩

theorem entry_eq_advance (merging : Merging) (entry : Entry) :
    merging.entry entry = merging.advance entry.facts entry.droppings := by
  cases entry with
  | other value => exact merging.drop_eq_advance
  | listed elements =>
      simp only [Merging.entry, Entry.facts, Entry.droppings]
      induction elements generalizing merging with
      | nil => simp
      | cons element rest ih =>
          rw [List.foldl_cons, element_eq_advance, ih, advance_advance,
            List.countP_cons, Nat.add_comm (List.countP _ rest)]
          cases h : element.fact? <;> simp [h]

theorem crates_eq_advance (merging : Merging) (crates : Assoc String Entry) :
    merging.crates crates =
      merging.advance (crates.flatMap fun field => field.2.facts)
        (crates.map fun field => field.2.droppings).sum := by
  simp only [Merging.crates]
  induction crates generalizing merging with
  | nil => simp
  | cons field rest ih =>
      rw [List.foldl_cons, entry_eq_advance, ih, advance_advance,
        List.flatMap_cons, List.map_cons, List.sum_cons]

end Merging

/-- What is reported on a payload when the given identities have been seen
before. -/
def Payload.report (seen : List Identity) (payload : Payload) : MergeReport :=
  if payload.isAccepted then
    { source := payload.sourceId
      added := (newIdentities seen payload.facts).card
      duplicates :=
        payload.facts.length - (newIdentities seen payload.facts).card
      dropped := payload.droppings
      rejected := false }
  else .rejection

theorem Payload.report_congr {seen other : List Identity}
    (h : ∀ identity, identity ∈ seen ↔ identity ∈ other) (payload : Payload) :
    payload.report seen = payload.report other := by
  simp only [Payload.report, newIdentities, h]

namespace Registry

theorem merge_eq (registry : Registry) (payload : Payload) :
    (registry.merge payload).report = payload.report registry.seen ∧
    (registry.merge payload).registry =
      (registry.addAll (unseen registry.seen payload.facts)).absorb
        (payload.report registry.seen) := by
  match payload with
  | .other value => exact ⟨rfl, rfl⟩
  | .fragment ⟨.other value, source⟩ => exact ⟨rfl, rfl⟩
  | .fragment ⟨.byCrate crates, source⟩ =>
      have hle := length_unseen_le registry.seen
        (crates.flatMap fun field => field.2.facts)
      have hreport :
          (registry.mergeEntries crates (source.text?.getD "")).report =
          Payload.report registry.seen
            (.fragment ⟨.byCrate crates, source⟩) := by
        simp only [mergeEntries, Merging.crates_eq_advance, Merging.advance,
          Merging.start, Merging.report, Payload.report, Payload.isAccepted,
          Payload.crates?, Payload.facts, Payload.droppings, Payload.sourceId,
          Payload.givenSource, Option.getD_some, Option.isSome_some, if_true,
          card_newIdentities, List.nil_append, Nat.zero_add, Int.ofNat_sub hle]
        rfl
      refine ⟨hreport, ?_⟩
      simp only [merge, ← hreport]
      simp only [mergeEntries, Merging.crates_eq_advance, Merging.advance,
        Merging.start, Payload.facts, Payload.crates?, Option.getD_some]

theorem seen_merge (registry : Registry) (payload : Payload) :
    (registry.merge payload).registry.seen =
      registry.seen ++ (unseen registry.seen payload.facts).map
        (·.identity) := by
  rw [(registry.merge_eq payload).2]
  exact registry.seen_addAll _

/-- A payload that states nothing new adds nothing: only the counters show that
it came. -/
theorem merge_of_seen {registry : Registry} {payload : Payload}
    (h : ∀ fact ∈ payload.facts, fact.identity ∈ registry.seen) :
    (registry.merge payload).report.added = 0 ∧
      (registry.merge payload).registry =
        registry.absorb (registry.merge payload).report := by
  obtain ⟨hreport, hregistry⟩ := registry.merge_eq payload
  rw [unseen_eq_nil h, addAll_nil] at hregistry
  refine ⟨?_, hreport ▸ hregistry⟩
  rw [hreport, Payload.report]
  split
  · rw [card_newIdentities, unseen_eq_nil h]
    rfl
  · rfl

/-! ## A run of merges -/

theorem absorb_addAll (registry : Registry) (report : MergeReport)
    (facts : List Fact) :
    (registry.absorb report).addAll facts =
      (registry.addAll facts).absorb report := by
  induction facts generalizing registry with
  | nil => rfl
  | cons fact rest ih => exact ih (registry.add fact.identity fact.record)

theorem foldl_absorb (registry : Registry) (reports : List MergeReport) :
    reports.foldl absorb registry =
      { registry with
        stats := reports.foldl RegistryStats.absorb registry.stats } := by
  induction reports generalizing registry with
  | nil => rfl
  | cons report rest ih => exact ih (registry.absorb report)

theorem mem_seen_merge (registry : Registry) (payload : Payload)
    (identity : Identity) :
    identity ∈ (registry.merge payload).registry.seen ↔
      identity ∈ registry.seen ++ payload.facts.map (·.identity) := by
  rw [seen_merge, List.mem_append, mem_map_unseen, List.mem_append]
  by_cases h : identity ∈ registry.seen <;> simp [h]

theorem mem_seen_of_stated (registry : Registry) {payload : Payload}
    {identity : Identity} (h : identity ∈ payload.facts.map (·.identity)) :
    identity ∈ (registry.merge payload).registry.seen :=
  (registry.mem_seen_merge payload identity).mpr (List.mem_append_right _ h)

@[simp] theorem mergeAll_nil (registry : Registry) :
    (registry.mergeAll []).1 = registry := rfl

@[simp] theorem mergeAll_singleton (registry : Registry) (payload : Payload) :
    (registry.mergeAll [payload]).1 = (registry.merge payload).registry := rfl

/-- The state after a run: the facts of all payloads have been taken up as if a
single one had brought them, and the counters have absorbed the reports. -/
theorem mergeAll_registry (registry : Registry) (payloads : List Payload) :
    (registry.mergeAll payloads).1 =
      (registry.mergeAll payloads).2.1.foldl absorb
        (registry.addAll
          (unseen registry.seen (payloads.flatMap Payload.facts))) := by
  induction payloads generalizing registry with
  | nil => simp [mergeAll]
  | cons payload rest ih =>
      have hmerged := (registry.merge_eq payload).2
      simp only [mergeAll, List.foldl_cons, (registry.merge_eq payload).1]
      rw [ih, seen_merge, hmerged, absorb_addAll, List.flatMap_cons,
        unseen_append, addAll_append]

/-- What has been seen after a run: what was seen before and what the payloads
state. -/
theorem mem_seen_mergeAll (registry : Registry) (payloads : List Payload)
    (identity : Identity) :
    identity ∈ (registry.mergeAll payloads).1.seen ↔
      identity ∈ registry.seen ∨
        ∃ payload ∈ payloads, identity ∈ payload.facts.map (·.identity) := by
  induction payloads generalizing registry with
  | nil => simp
  | cons payload rest ih =>
      have hrest := ih (registry.merge payload).registry
      rw [mem_seen_merge, List.mem_append] at hrest
      simp only [mergeAll, hrest, List.mem_cons, exists_eq_or_imp, or_assoc]

theorem mergeAll_empty (payloads : List Payload) :
    (empty.mergeAll payloads).1 =
      { empty.addAll (firsts (payloads.flatMap Payload.facts)) with
        stats := (empty.mergeAll payloads).2.1.foldl RegistryStats.absorb
          .empty } := by
  have hfirsts : unseen empty.seen (payloads.flatMap Payload.facts) =
      firsts _ := unseen_empty _
  rw [mergeAll_registry, hfirsts, foldl_absorb, stats_addAll]
  rfl

/-- Each payload is reported on as one that comes after the identities stated
before it. -/
theorem mergeAll_reports (registry : Registry) (payloads : List Payload) :
    (registry.mergeAll payloads).2.1 =
      payloads.mapIdx fun index payload =>
        payload.report
          (registry.seen ++ ((payloads.take index).flatMap Payload.facts).map
            (·.identity)) := by
  induction payloads generalizing registry with
  | nil => rfl
  | cons payload rest ih =>
      rw [List.mapIdx_cons]
      simp only [mergeAll, (registry.merge_eq payload).1, ih, List.take_zero,
        List.flatMap_nil, List.map_nil, List.append_nil, List.take_succ_cons,
        List.flatMap_cons, List.map_append]
      -- The registry lists what it has seen without repetition, the statement
      -- with repetition.
      congr 2
      funext index other
      apply Payload.report_congr
      intro identity
      rw [List.mem_append, mem_seen_merge, ← List.mem_append, List.append_assoc]

theorem mergeAll_append (registry : Registry) (earlier later : List Payload) :
    (registry.mergeAll (earlier ++ later)).1 =
        ((registry.mergeAll earlier).1.mergeAll later).1 ∧
      (registry.mergeAll (earlier ++ later)).2.1 =
        (registry.mergeAll earlier).2.1 ++
          ((registry.mergeAll earlier).1.mergeAll later).2.1 := by
  induction earlier generalizing registry with
  | nil => exact ⟨rfl, rfl⟩
  | cons payload rest ih =>
      obtain ⟨hregistry, hreports⟩ := ih (registry.merge payload).registry
      exact ⟨hregistry,
        congrArg ((registry.merge payload).report :: ·) hreports⟩

theorem take_mergeAll_reports (registry : Registry) (payloads : List Payload)
    (count : Nat) :
    (registry.mergeAll payloads).2.1.take count =
      (registry.mergeAll (payloads.take count)).2.1 := by
  induction payloads generalizing registry count with
  | nil => simp [mergeAll]
  | cons payload rest ih =>
      cases count with
      | zero => rfl
      | succ count =>
          exact congrArg (_ :: ·) (ih (registry.merge payload).registry count)

def initialized (registry : Registry) : Registry :=
  { registry with isInitialized := true }

theorem addAll_initialized (registry : Registry) (facts : List Fact) :
    registry.initialized.addAll facts =
      (registry.addAll facts).initialized := by
  induction facts generalizing registry with
  | nil => rfl
  | cons fact rest ih => exact ih (registry.add fact.identity fact.record)

theorem mergeAll_reports_initialized (registry : Registry)
    (payloads : List Payload) :
    (registry.initialized.mergeAll payloads).2.1 =
      (registry.mergeAll payloads).2.1 := by
  rw [mergeAll_reports, mergeAll_reports]
  rfl

theorem merge_initialized (registry : Registry) (payload : Payload) :
    (registry.initialized.merge payload).registry =
      (registry.merge payload).registry.initialized := by
  have hseen : registry.initialized.seen = registry.seen := rfl
  rw [(merge_eq _ _).2, (merge_eq _ _).2, hseen, addAll_initialized]
  rfl

/-- Being attached makes no difference to what is merged. -/
theorem mergeAll_initialized (registry : Registry) (payloads : List Payload) :
    (registry.initialized.mergeAll payloads).1 =
      (registry.mergeAll payloads).1.initialized := by
  induction payloads generalizing registry with
  | nil => rfl
  | cons payload rest ih =>
      have hrest := ih (registry.merge payload).registry
      rw [← merge_initialized] at hrest
      exact hrest

end Registry

end TraitIndex
