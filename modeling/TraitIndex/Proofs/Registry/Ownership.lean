import TraitIndex.Proofs.Lists
import TraitIndex.Proofs.Registry.Consistency

/-!
# Records by trait and by crate

A registry lists its records by trait, and the same records can be asked for by
the crate that owns them.  Either way gives the same records in the same order,
no record is counted twice, and none is left out.
-/

namespace TraitIndex

namespace Registry

theorem isOwnedBy_iff {record : Record} {crate : String} :
    isOwnedBy record crate = true ↔ record.owningCrate = .text crate := by
  unfold isOwnedBy
  split
  · next owner howner => simp [howner]
  · next hother => exact iff_of_false Bool.false_ne_true (hother crate)

def owners (registry : Registry) : List String :=
  (registry.traits.flatMap registry.cratesFor).eraseDups

def allRecords (registry : Registry) : List Record :=
  registry.byTrait.flatMap (·.2)

theorem ownedBy_eq_filter (registry : Registry) (crate : String) :
    registry.ownedBy crate = registry.allRecords.filter (isOwnedBy · crate) :=
  List.filter_flatMap.symm

theorem cratesFor_eq_nil_iff (registry : Registry) (traitName : String) :
    registry.cratesFor traitName = [] ↔ registry.records traitName = [] := by
  simp only [List.eq_nil_iff_forall_not_mem, cratesFor, List.mem_eraseDups,
    List.mem_map]
  simp

namespace Consistent

variable {registry : Registry} (h : Consistent registry)

include h

/-! ## Single records -/

theorem mem_allRecords_iff {record : Record} :
    record ∈ registry.allRecords ↔ ∃ traitName,
      record ∈ registry.records traitName := by
  rw [allRecords, List.mem_flatMap]
  constructor
  · rintro ⟨field, hfield, hrecord⟩
    exact ⟨field.1, by rwa [h.records_of_mem hfield]⟩
  · rintro ⟨traitName, hrecord⟩
    exact ⟨_, mem_of_records hrecord, hrecord⟩

theorem exists_texts {traitName : String} {record : Record}
    (hrecord : record ∈ registry.records traitName) :
    record.traitName = .text traitName ∧ ∃ owner,
      record.owningCrate = .text owner := by
  obtain ⟨identity, hvalid, rfl⟩ := h.valid_of_mem_records hrecord
  obtain ⟨htrait, hcrate, -, -⟩ :=
    Record.identity?_eq_some (Option.filter_eq_some_iff.mp hvalid).1
  exact ⟨htrait, _, hcrate⟩

theorem isOwnedBy_eq {traitName : String} {record : Record}
    (hrecord : record ∈ registry.records traitName) (crate : String) :
    isOwnedBy record crate = (record.owningCrate.toText == crate) := by
  obtain ⟨-, owner, howner⟩ := h.exists_texts hrecord
  rw [isOwnedBy, howner]
  rfl

theorem existsUnique_owner {traitName : String} {record : Record}
    (hrecord : record ∈ registry.records traitName) :
    ∃! crate, record ∈ registry.ownedBy crate := by
  obtain ⟨-, owner, howner⟩ := h.exists_texts hrecord
  have hall : record ∈ registry.allRecords :=
    h.mem_allRecords_iff.mpr ⟨traitName, hrecord⟩
  have hmem (crate : String) : record ∈ registry.ownedBy crate ↔
      owner = crate := by
    rw [ownedBy_eq_filter, List.mem_filter, isOwnedBy_iff, howner,
      Value.text.injEq, and_iff_right hall]
  exact ⟨owner, (hmem owner).mpr rfl, fun crate hcrate =>
    ((hmem crate).mp hcrate).symm⟩

theorem nodup_identities_ownedBy (crate : String) :
    ((registry.ownedBy crate).filterMap Record.identity?).Nodup := by
  have hall : (registry.allRecords.filterMap Record.identity?).Nodup := by
    rw [allRecords, List.filterMap_flatMap]
    exact h.seen_perm.nodup_iff.mpr h.seen_nodup
  rw [ownedBy_eq_filter]
  exact hall.sublist (List.filter_sublist.filterMap _)

/-! ## Lists of records -/

omit h in
/-- What is chosen from a map by one key is what stands under it. -/
theorem flatMap_of_key {byTrait : Assoc String (List Record)}
    (hkeys : byTrait.keys.Nodup) (traitName : String) :
    (byTrait.flatMap fun field => if field.1 = traitName then field.2 else []) =
      (byTrait.find? traitName).getD [] := by
  induction byTrait with
  | nil => rfl
  | cons field rest ih =>
      obtain ⟨hfirst, hrest⟩ := List.nodup_cons.mp hkeys
      rw [List.flatMap_cons, ih hrest, Assoc.find?]
      split
      · next heq =>
          have hnone : Assoc.find? traitName rest = none := by
            rw [← Option.not_isSome_iff_eq_none, Assoc.isSome_find?_iff]
            exact heq ▸ hfirst
          rw [hnone, Option.getD_none, List.append_nil, Option.getD_some]
      · rw [List.nil_append]

/-- The records that name a trait are those listed under it. -/
theorem filter_allRecords (traitName : String) :
    registry.allRecords.filter
      (fun record => record.traitName.text? = some traitName) =
      registry.records traitName := by
  rw [allRecords, List.filter_flatMap, records, ← flatMap_of_key h.keys_nodup]
  apply List.flatMap_congr
  intro field hfield
  have htrait : ∀ record ∈ field.2, record.traitName.text? = some field.1 := by
    intro record hrecord
    rw [← h.records_of_mem hfield] at hrecord
    rw [(h.exists_texts hrecord).1]
    rfl
  split
  · next heq =>
      rw [List.filter_eq_self]
      intro record hrecord
      rw [htrait record hrecord, heq]
      exact decide_eq_true rfl
  · next hne =>
      rw [List.filter_eq_nil_iff]
      intro record hrecord
      simpa [htrait record hrecord] using hne

/-- Choosing by crate and then by trait, or by trait and then by crate, gives
the same list. -/
theorem filter_ownedBy (traitName crate : String) :
    (registry.ownedBy crate).filter
      (fun record => record.traitName.text? = some traitName) =
      (registry.records traitName).filter (isOwnedBy · crate) := by
  rw [ownedBy_eq_filter, List.filter_filter, ← h.filter_allRecords,
    List.filter_filter]
  congr 1
  funext record
  exact Bool.and_comm _ _

/-! ## Crates -/

theorem mem_cratesFor_iff (traitName crate : String) :
    crate ∈ registry.cratesFor traitName ↔
      (registry.records traitName).filter (isOwnedBy · crate) ≠ [] := by
  rw [cratesFor, List.mem_eraseDups, List.mem_map, ne_eq,
    List.filter_eq_nil_iff]
  push Not
  refine exists_congr fun record => and_congr_right fun hrecord => ?_
  rw [h.isOwnedBy_eq hrecord, beq_iff_eq]

theorem pairwise_cratesFor (traitName : String) :
    (registry.cratesFor traitName).Pairwise fun a b =>
      (registry.records traitName).findIdx (isOwnedBy · a) <
        (registry.records traitName).findIdx (isOwnedBy · b) := by
  have hplace (crate : String) :
      ((registry.records traitName).map fun record =>
        record.owningCrate.toText).idxOf crate =
        (registry.records traitName).findIdx (isOwnedBy · crate) := by
    rw [List.idxOf, List.findIdx_map]
    exact findIdx_congr fun record hrecord =>
      (h.isOwnedBy_eq hrecord crate).symm
  have hpairwise := pairwise_eraseDups_idxOf
    ((registry.records traitName).map fun record => record.owningCrate.toText)
  simp only [hplace] at hpairwise
  exact hpairwise

theorem mem_owners_iff {crate : String} :
    crate ∈ registry.owners ↔ ∃ record ∈ registry.allRecords,
      record.owningCrate = .text crate := by
  simp only [owners, List.mem_eraseDups, List.mem_flatMap,
    h.mem_cratesFor_iff, ne_eq, List.filter_eq_nil_iff, h.mem_allRecords_iff,
    isOwnedBy_iff, not_forall, not_not]
  constructor
  · rintro ⟨traitName, -, record, hrecord, howner⟩
    exact ⟨record, ⟨traitName, hrecord⟩, howner⟩
  · rintro ⟨record, ⟨traitName, hrecord⟩, howner⟩
    exact ⟨traitName, (h.mem_traits_iff _).mpr (List.ne_nil_of_mem hrecord),
      record, hrecord, howner⟩

theorem length_allRecords : registry.allRecords.length = registry.size := by
  calc registry.allRecords.length
    _ = (registry.byTrait.map fun field => field.2.length).sum :=
      List.length_flatMap
    _ = (registry.byTrait.map fun field =>
      (registry.records field.1).length).sum := by
        congr 1
        exact List.map_congr_left fun field hfield => by
          rw [h.records_of_mem hfield]
    _ = (registry.byTrait.keys.map fun traitName =>
      (registry.records traitName).length).sum := by
        rw [Assoc.keys, List.map_map]
        rfl
    _ = (registry.traits.map fun traitName =>
      (registry.records traitName).length).sum :=
        ((registry.traits_perm_keys.map _).sum_nat).symm
    _ = registry.size := h.size_eq_sum.symm

theorem count_owner (crate : String) :
    (registry.allRecords.map fun record => record.owningCrate.toText).count
      crate = (registry.ownedBy crate).length := by
  rw [List.count, List.countP_map, ownedBy_eq_filter, ←
    List.countP_eq_length_filter]
  refine List.countP_congr fun record hrecord => ?_
  obtain ⟨traitName, hrecord⟩ := h.mem_allRecords_iff.mp hrecord
  rw [h.isOwnedBy_eq hrecord]
  rfl

/-- Every record of a trait counts once when the crates that own one are gone
through. -/
theorem sum_cratesFor (traitName : String) :
    ((registry.cratesFor traitName).map fun crate =>
      ((registry.records traitName).filter (isOwnedBy · crate)).length).sum =
        (registry.records traitName).length := by
  have hcount (crate : String) :
      ((registry.records traitName).filter (isOwnedBy · crate)).length =
        ((registry.records traitName).map fun record =>
          record.owningCrate.toText).count crate := by
    rw [List.count, List.countP_map, ← List.countP_eq_length_filter]
    exact List.countP_congr fun record hrecord => by
      rw [h.isOwnedBy_eq hrecord]; rfl
  simp only [hcount, cratesFor]
  rw [sum_count_eraseDups, List.length_map]

/-- Every record counts once when the crates that own any are gone through. -/
theorem sum_ownedBy :
    (registry.owners.map fun crate => (registry.ownedBy crate).length).sum =
      registry.size := by
  have hperm : registry.owners.Perm
      (registry.allRecords.map fun record =>
        record.owningCrate.toText).eraseDups := by
    have howners : registry.owners.Nodup := nodup_eraseDups _
    refine (List.perm_ext_iff_of_nodup howners (nodup_eraseDups _)).mpr
      fun crate => ?_
    rw [h.mem_owners_iff, List.mem_eraseDups, List.mem_map]
    refine exists_congr fun record => and_congr_right fun hrecord => ?_
    obtain ⟨traitName, hrecord⟩ := h.mem_allRecords_iff.mp hrecord
    rw [← beq_iff_eq (a := record.owningCrate.toText), ← h.isOwnedBy_eq hrecord,
      isOwnedBy_iff]
  rw [(hperm.map _).sum_nat]
  simp only [← h.count_owner]
  rw [sum_count_eraseDups, List.length_map, h.length_allRecords]

theorem records_eq_nil_iff (traitName : String) :
    registry.records traitName = [] ↔ traitName ∉ registry.traits := by
  rw [h.mem_traits_iff, not_not]

end Consistent

end Registry

namespace Hub

open Registry

/-- Whatever a registry is asked, after any steps of any hub it started empty
in, the answers are about the same records. -/
theorem run_answers_agree (steps : List Step) (name : String) :
    let registry := (empty.run steps).registry name
    (∀ traitName crate,
      (registry.records traitName).filter (isOwnedBy · crate) =
        (registry.ownedBy crate).filter fun record => record.traitName.text? =
          some traitName) ∧
      (∀ record crate, isOwnedBy record crate = true ↔
        record.owningCrate = .text crate) ∧
      (∀ traitName, (registry.cratesFor traitName).Nodup ∧
        ((registry.cratesFor traitName).Pairwise fun a b =>
          (registry.records traitName).findIdx (isOwnedBy · a) <
            (registry.records traitName).findIdx (isOwnedBy · b)) ∧
        ∀ crate, crate ∈ registry.cratesFor traitName ↔
          (registry.records traitName).filter (isOwnedBy · crate) ≠ []) ∧
      (∀ traitName, ∀ record ∈ registry.records traitName,
        ∃! crate, record ∈ registry.ownedBy crate) ∧
      (∀ crate, ((registry.ownedBy crate).filterMap Record.identity?).Nodup) ∧
      registry.owners.Nodup ∧
      (∀ crate, crate ∈ registry.owners ↔
        ∃ traitName, ∃ record ∈ registry.records traitName,
          record.owningCrate = .text crate) ∧
      (registry.owners.map fun crate => (registry.ownedBy crate).length).sum =
        registry.size ∧
      (registry.traits.map fun traitName =>
        (registry.records traitName).length).sum = registry.size ∧
      (∀ traitName, registry.records traitName = [] ↔
        traitName ∉ registry.traits) ∧
      ∀ traitName, registry.cratesFor traitName = [] ↔
        traitName ∉ registry.traits := by
  intro registry
  have hempty : Consistent (empty.registry name) := Consistent.empty
  have h : Consistent registry := run_consistent hempty steps
  refine ⟨fun traitName crate => (h.filter_ownedBy traitName crate).symm,
    fun _ _ => isOwnedBy_iff, fun traitName =>
      ⟨nodup_eraseDups _, h.pairwise_cratesFor traitName,
        h.mem_cratesFor_iff traitName⟩,
    fun _ _ => h.existsUnique_owner, h.nodup_identities_ownedBy,
    nodup_eraseDups _, ?_, h.sum_ownedBy, h.size_eq_sum.symm,
    h.records_eq_nil_iff, ?_⟩
  · intro crate
    simp only [h.mem_owners_iff, h.mem_allRecords_iff, exists_and_right,
      exists_comm (α := String)]
  · intro traitName
    rw [cratesFor_eq_nil_iff, h.records_eq_nil_iff]

end Hub

end TraitIndex
