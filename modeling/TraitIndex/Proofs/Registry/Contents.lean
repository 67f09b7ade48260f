import TraitIndex.Proofs.Registry.Merging
import TraitIndex.Registry.Query

/-!
# The contents of a registry

What the queries answer about a registry that holds some facts.  Which traits it
knows, which crates own records of them and what a short name can mean depends
only on the identities of the facts.
-/

namespace TraitIndex.Registry

/-! ## Traits -/

theorem nodup_keys_addAll (registry : Registry)
    (h : registry.byTrait.keys.Nodup) (facts : List Fact) :
    (registry.addAll facts).byTrait.keys.Nodup := by
  induction facts generalizing registry with
  | nil => exact h
  | cons fact rest ih => exact ih _ (Assoc.nodup_keys_insert h _ _)

theorem keys_addAll_empty (facts : List Fact) :
    (empty.addAll facts).byTrait.keys =
      (facts.map (·.identity.traitName)).eraseDups := by
  simpa [empty, Assoc.keys] using keys_addAll empty facts

theorem mem_keys_addAll_empty {facts : List Fact} {traitName : String} :
    traitName ∈ (empty.addAll facts).byTrait.keys ↔
      ∃ identity ∈ facts.map (·.identity), identity.traitName = traitName := by
  rw [keys_addAll_empty, List.mem_eraseDups]
  simp

theorem traits_perm_keys (registry : Registry) :
    registry.traits.Perm registry.byTrait.keys :=
  List.mergeSort_perm _ _

theorem pairwise_traits (registry : Registry) :
    registry.traits.Pairwise (· ≤ ·) := by
  have htrans (a b c : String) (hab : decide (a ≤ b) = true)
      (hbc : decide (b ≤ c) = true) :
      decide (a ≤ c) = true :=
    decide_eq_true
      (String.le_trans (of_decide_eq_true hab) (of_decide_eq_true hbc))
  have htotal (a b : String) : (decide (a ≤ b) || decide (b ≤ a)) = true := by
    simpa using String.le_total a b
  exact (List.pairwise_mergeSort htrans htotal registry.byTrait.keys).imp
    of_decide_eq_true

/-- Registries that know the same traits list them alike. -/
theorem traits_congr {a b : Registry} (ha : a.byTrait.keys.Nodup)
    (hb : b.byTrait.keys.Nodup)
    (h : ∀ traitName, traitName ∈ a.byTrait.keys ↔ traitName ∈ b.byTrait.keys) :
    a.traits = b.traits := by
  have hperm : a.traits.Perm b.traits :=
    (a.traits_perm_keys.trans ((List.perm_ext_iff_of_nodup ha hb).mpr h)).trans
      b.traits_perm_keys.symm
  exact hperm.eq_of_pairwise (fun _ _ _ _ => String.le_antisymm)
    a.pairwise_traits b.pairwise_traits

theorem knows_iff {registry : Registry} {traitName : String} :
    registry.knows traitName = true ↔ traitName ∈ registry.byTrait.keys :=
  Assoc.isSome_find?_iff

theorem knows_iff_mem_traits {registry : Registry} {traitName : String} :
    registry.knows traitName = true ↔ traitName ∈ registry.traits := by
  rw [knows_iff, registry.traits_perm_keys.mem_iff]

theorem resolve_congr {a b : Registry} (ha : a.byTrait.keys.Nodup)
    (hb : b.byTrait.keys.Nodup) (h : ∀ traitName, traitName ∈ a.byTrait.keys ↔
      traitName ∈ b.byTrait.keys) (name : String) :
    a.resolve name = b.resolve name := by
  have hknows : a.knows name = b.knows name := by
    rw [Bool.eq_iff_iff, knows_iff, knows_iff, h]
  rw [resolve, resolve, hknows, traits_congr ha hb h]

/-! ## Records -/

theorem identities_records_addAll (facts : List Fact) (traitName : String) :
    ((empty.addAll facts).records traitName).filterMap Record.identity? =
      (facts.map (·.identity)).filter (·.traitName = traitName) := by
  rw [records_addAll, records_empty, List.nil_append, List.filterMap_map,
    List.filter_map, ← List.filterMap_eq_map]
  congr 1
  funext fact
  exact fact.identity_of_valid

theorem mem_cratesFor_addAll {facts : List Fact} {traitName crate : String} :
    crate ∈ (empty.addAll facts).cratesFor traitName ↔
      ∃ identity ∈ facts.map (·.identity),
        identity.traitName = traitName ∧ identity.owningCrate = crate := by
  have howner (fact : Fact) : fact.record.owningCrate.toText =
      fact.identity.owningCrate := by
    rw [(Record.identity?_eq_some fact.identity_of_valid).2.1]
    rfl
  rw [cratesFor, List.mem_eraseDups, records_addAll, records_empty]
  simp [howner, and_assoc]

end TraitIndex.Registry
