import TraitIndex.Fault
import TraitIndex.Proofs.Outcome
import TraitIndex.Sidebar.Index

/-!
# What a catalog answers

Indexes come to a catalog one after the other, and some cannot be had.  Whatever
comes in between, the catalog answers for a crate from the index that came last
for that crate.
-/

namespace TraitIndex

namespace SidebarCatalog

/-- The catalog after one more index, which may not have been had. -/
def take (catalog : SidebarCatalog) : Except Fault SidebarIndex → SidebarCatalog
  | .ok index => catalog.add index
  | .error _ => catalog

def takeAll (catalog : SidebarCatalog)
    (results : List (Except Fault SidebarIndex)) :
    SidebarCatalog :=
  results.foldl take catalog

def indexesOf (results : List (Except Fault SidebarIndex)) (crate : String) :
    List SidebarIndex :=
  (results.filterMap Except.toOption).filter fun index => index.crate = crate

/-- A catalog has the given index of each crate and answers from it alone. -/
structure Holds (catalog : SidebarCatalog)
    (held : String → Option SidebarIndex) : Prop where
  pairwise_crates : catalog.crates.Pairwise (· < ·)
  mem_crates_iff : ∀ crate, crate ∈ catalog.crates ↔
    ∃ index, held crate = some index
  lookup_eq : ∀ crate kind,
    catalog.lookup crate kind =
      ((held crate).bind fun index => index.items.find? kind).getD []

/-! ## The crates of a catalog -/

theorem crates_perm_keys (catalog : SidebarCatalog) :
    catalog.crates.Perm catalog.indexes.keys :=
  List.mergeSort_perm _ _

theorem pairwise_crates {catalog : SidebarCatalog}
    (h : catalog.indexes.keys.Nodup) :
    catalog.crates.Pairwise (· < ·) := by
  have hsorted : catalog.crates.Pairwise fun a b => decide (a ≤ b) = true := by
    refine List.pairwise_mergeSort ?_ ?_ _
    · intro a b c hab hbc
      rw [decide_eq_true_eq] at hab hbc ⊢
      exact String.le_trans hab hbc
    · intro a b
      rw [Bool.or_eq_true, decide_eq_true_eq, decide_eq_true_eq]
      exact String.le_total a b
  have hnodup := catalog.crates_perm_keys.nodup_iff.mpr h
  refine (hsorted.and hnodup).imp ?_
  rintro a b ⟨hle, hne⟩
  exact Std.lt_of_le_of_ne (of_decide_eq_true hle) hne

theorem mem_crates_iff {catalog : SidebarCatalog} {crate : String} :
    crate ∈ catalog.crates ↔ ∃ index, catalog.get? crate = some index := by
  rw [catalog.crates_perm_keys.mem_iff, ← Assoc.isSome_find?_iff,
    Option.isSome_iff_exists]
  rfl

theorem holds_of_get? {catalog : SidebarCatalog}
    {held : String → Option SidebarIndex} (hkeys : catalog.indexes.keys.Nodup)
    (h : ∀ crate, catalog.get? crate = held crate) :
    catalog.Holds held where
  pairwise_crates := pairwise_crates hkeys
  mem_crates_iff crate := by rw [SidebarCatalog.mem_crates_iff, h]
  lookup_eq crate kind := by
    rw [lookup, h]
    cases held crate <;> rfl

/-! ## One index after the other -/

theorem nodup_keys_take {catalog : SidebarCatalog}
    (h : catalog.indexes.keys.Nodup) (result : Except Fault SidebarIndex) :
    (catalog.take result).indexes.keys.Nodup := by
  cases result with
  | ok index => exact Assoc.nodup_keys_insert h index.crate index
  | error fault => exact h

theorem nodup_keys_takeAll {catalog : SidebarCatalog}
    (h : catalog.indexes.keys.Nodup)
    (results : List (Except Fault SidebarIndex)) :
    (catalog.takeAll results).indexes.keys.Nodup := by
  induction results generalizing catalog with
  | nil => exact h
  | cons result rest ih => exact ih (nodup_keys_take h result)

theorem get?_take (catalog : SidebarCatalog)
    (result : Except Fault SidebarIndex) (crate : String) :
    (catalog.take result).get? crate =
      (indexesOf [result] crate).getLast?.or (catalog.get? crate) := by
  cases result with
  | error fault => rfl
  | ok index =>
      by_cases h : index.crate = crate
      · simp [take, get?, add, indexesOf, Except.toOption, h]
      · simp [take, get?, add, indexesOf, Except.toOption, h,
          Assoc.find?_insert_of_ne (Ne.symm h)]

theorem indexesOf_append (results others : List (Except Fault SidebarIndex))
    (crate : String) :
    indexesOf (results ++ others) crate =
      indexesOf results crate ++ indexesOf others crate := by
  rw [indexesOf, List.filterMap_append, List.filter_append]
  rfl

theorem get?_takeAll (catalog : SidebarCatalog)
    (results : List (Except Fault SidebarIndex)) (crate : String) :
    (catalog.takeAll results).get? crate =
      (indexesOf results crate).getLast?.or (catalog.get? crate) := by
  induction results generalizing catalog with
  | nil => rfl
  | cons result rest ih =>
      have hrest : (catalog.takeAll (result :: rest)) =
          (catalog.take result).takeAll rest := rfl
      rw [hrest, ih, get?_take, ← Option.or_assoc, ← List.getLast?_append, ←
        indexesOf_append]
      rfl

/-- A catalog that starts empty has of each crate the index that came last. -/
theorem holds_takeAll (results : List (Except Fault SidebarIndex)) :
    (empty.takeAll results).Holds fun crate =>
      (indexesOf results crate).getLast? := by
  have hempty : empty.indexes.keys.Nodup := List.nodup_nil
  refine holds_of_get? (nodup_keys_takeAll hempty results) fun crate => ?_
  rw [get?_takeAll]
  exact Option.or_none

/-! ## The index that came last -/

theorem mem_indexesOf_iff {results : List (Except Fault SidebarIndex)}
    {crate : String} {index : SidebarIndex} :
    index ∈ indexesOf results crate ↔ .ok index ∈ results ∧
      index.crate = crate := by
  simp [indexesOf, toOption_eq_some_iff]

theorem exists_getLast?_indexesOf_iff
    {results : List (Except Fault SidebarIndex)} {crate : String} :
    (∃ index, (indexesOf results crate).getLast? = some index) ↔
      ∃ index, .ok index ∈ results ∧ index.crate = crate := by
  simp only [← mem_indexesOf_iff]
  rw [← Option.isSome_iff_exists, List.getLast?_isSome]
  exact ⟨List.exists_mem_of_ne_nil _, fun ⟨_, hmem⟩ => List.ne_nil_of_mem hmem⟩

/-- Where all indexes of a crate are one, that is the one that came last. -/
theorem getLast?_indexesOf_eq {results : List (Except Fault SidebarIndex)}
    {crate : String} {found : Option SidebarIndex}
    (honly : ∀ index, .ok index ∈ results → index.crate = crate →
      found = some index)
    (hfound : ∀ index, found = some index → .ok index ∈ results ∧
      index.crate = crate) :
    (indexesOf results crate).getLast? = found := by
  cases hlast : (indexesOf results crate).getLast? with
  | some index =>
      obtain ⟨hmem, hcrate⟩ := mem_indexesOf_iff.mp (List.mem_of_getLast? hlast)
      exact (honly index hmem hcrate).symm
  | none =>
      have hnil := List.getLast?_eq_none_iff.mp hlast
      symm
      rw [Option.eq_none_iff_forall_ne_some]
      intro index heq
      have hmem := mem_indexesOf_iff.mpr (hfound index heq)
      rw [hnil] at hmem
      exact List.not_mem_nil hmem

/-- An index of another crate, or one that could not be had, has no bearing on a
crate, wherever it comes. -/
theorem indexesOf_insert {result : Except Fault SidebarIndex} {crate : String}
    (h : ∀ index, result = .ok index → index.crate ≠ crate)
    (before after : List (Except Fault SidebarIndex)) :
    indexesOf (before ++ result :: after) crate =
      indexesOf (before ++ after) crate := by
  have hnone : indexesOf [result] crate = [] := by
    cases result with
    | error fault => rfl
    | ok index => simp [indexesOf, Except.toOption, h index rfl]
  rw [List.append_cons, indexesOf_append, indexesOf_append,
    indexesOf_append, hnone, List.append_nil]

theorem lookup_takeAll_of_other
    {results before after : List (Except Fault SidebarIndex)}
    {result : Except Fault SidebarIndex} {crate : String}
    (hresults : results = before ++ result :: after)
    (h : ∀ index, result = .ok index → index.crate ≠ crate) (kind : String) :
    (empty.takeAll results).lookup crate kind =
      (empty.takeAll (before ++ after)).lookup crate kind := by
  rw [hresults, (holds_takeAll _).lookup_eq, (holds_takeAll _).lookup_eq,
    indexesOf_insert h]

end SidebarCatalog

end TraitIndex
