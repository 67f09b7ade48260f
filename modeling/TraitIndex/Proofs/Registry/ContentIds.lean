import Mathlib.Data.Prod.Lex
import Mathlib.Data.String.Basic
import TraitIndex.Proofs.Registry.Malformed
import TraitIndex.Proofs.Registry.Ownership
import TraitIndex.Proofs.Text.Quoting

/-!
# Names from contents

A fragment that brings no name is named after the identities it states.  They
are brought into one order and written so that no two sets of them are written
alike; what can make two names equal beyond that is the digest alone.
-/

namespace TraitIndex

/-! ## The order of identities -/

namespace Identity

/-- The fields of an identity in the order in which they are compared. -/
def key (identity : Identity) : String ×ₗ String ×ₗ String ×ₗ String :=
  toLex (identity.traitName, toLex (identity.owningCrate,
    toLex (identity.implementingType, identity.constraintText)))

theorem key_injective : Function.Injective key := by
  intro a b h
  obtain ⟨traitName, owningCrate, implementingType, constraintText⟩ := a
  cases b
  simp only [key, EmbeddingLike.apply_eq_iff_eq, Prod.mk.injEq] at h
  obtain ⟨rfl, rfl, rfl, rfl⟩ := h
  rfl

theorem le_iff {a b : Identity} : a.le b = true ↔ a.key ≤ b.key := by
  simp only [key, Prod.Lex.toLex_le_toLex, Identity.le]
  by_cases htrait : a.traitName = b.traitName
  · by_cases hcrate : a.owningCrate = b.owningCrate
    · by_cases htype : a.implementingType = b.implementingType <;>
        simp [htrait, hcrate, htype]
    · simp [htrait, hcrate]
  · simp [htrait]

theorem le_trans (a b c : Identity) (hab : a.le b = true)
    (hbc : b.le c = true) :
    a.le c = true :=
  le_iff.mpr ((le_iff.mp hab).trans (le_iff.mp hbc))

theorem le_total (a b : Identity) : (a.le b || b.le a) = true := by
  rw [Bool.or_eq_true, le_iff, le_iff]
  exact LinearOrder.le_total a.key b.key

theorem le_antisymm {a b : Identity} (hab : a.le b = true)
    (hba : b.le a = true) : a = b :=
  key_injective ((le_iff.mp hab).antisymm (le_iff.mp hba))

end Identity

/-! ## One text for each set -/

theorem mem_sortedIdentities {identities : List Identity}
    {identity : Identity} :
    identity ∈ sortedIdentities identities ↔ identity ∈ identities := by
  rw [sortedIdentities, List.mem_mergeSort, List.mem_eraseDups]

theorem pairwise_sortedIdentities (identities : List Identity) :
    (sortedIdentities identities).Pairwise fun a b => a.le b = true :=
  List.pairwise_mergeSort Identity.le_trans Identity.le_total _

theorem nodup_sortedIdentities (identities : List Identity) :
    (sortedIdentities identities).Nodup :=
  (List.mergeSort_perm _ _).nodup_iff.mpr (nodup_eraseDups identities)

/-- Neither the order in which identities are stated nor how often makes a
difference. -/
theorem sortedIdentities_eq_iff {a b : List Identity} :
    sortedIdentities a = sortedIdentities b ↔ ∀ identity, identity ∈ a ↔
      identity ∈ b := by
  constructor
  · intro h identity
    rw [← mem_sortedIdentities, h, mem_sortedIdentities]
  · intro h
    have hperm : (sortedIdentities a).Perm (sortedIdentities b) := by
      rw [List.perm_ext_iff_of_nodup (nodup_sortedIdentities a)
        (nodup_sortedIdentities b)]
      intro identity
      rw [mem_sortedIdentities, mem_sortedIdentities, h]
    exact hperm.eq_of_pairwise (fun _ _ _ _ => Identity.le_antisymm)
      (pairwise_sortedIdentities a) (pairwise_sortedIdentities b)

theorem sortedIdentities_of_sorted {identities : List Identity}
    (hsorted : identities.Pairwise fun a b => a.le b = true)
    (hnodup : identities.Nodup) :
    sortedIdentities identities = identities := by
  have hperm : (sortedIdentities identities).Perm identities := by
    rw [List.perm_ext_iff_of_nodup (nodup_sortedIdentities identities) hnodup]
    exact fun _ => mem_sortedIdentities
  exact hperm.eq_of_pairwise (fun _ _ _ _ => Identity.le_antisymm)
    (pairwise_sortedIdentities identities) hsorted

theorem Identity.toList_written (identity : Identity) :
    identity.written.toList =
      '(' :: (Text.quotedChars identity.traitName.toList ++
        ',' :: ' ' :: (Text.quotedChars identity.owningCrate.toList ++
          ',' :: ' ' :: (Text.quotedChars identity.implementingType.toList ++
            ',' :: ' ' :: (Text.quotedChars identity.constraintText.toList ++
              [')'])))) := by
  simp [written, Text.quoted]

theorem Identity.separable_written :
    Text.Separable fun identity : Identity => identity.written.toList := by
  intro a b s t h
  simp only [toList_written, List.cons_append, List.append_assoc,
    List.nil_append, List.cons.injEq, true_and] at h
  obtain ⟨htrait, h⟩ := Text.separable_quotedChars h
  simp only [List.cons.injEq, true_and] at h
  obtain ⟨hcrate, h⟩ := Text.separable_quotedChars h
  simp only [List.cons.injEq, true_and] at h
  obtain ⟨htype, h⟩ := Text.separable_quotedChars h
  simp only [List.cons.injEq, true_and] at h
  obtain ⟨hconstraint, h⟩ := Text.separable_quotedChars h
  simp only [List.cons.injEq, true_and] at h
  rw [String.toList_inj] at htrait hcrate htype hconstraint
  exact ⟨by cases a; cases b; simp_all, h⟩

/-- What the digest is taken of tells the sets apart. -/
theorem contentText_eq_iff {a b : List Identity} :
    contentText a = contentText b ↔ ∀ identity, identity ∈ a ↔
      identity ∈ b := by
  rw [← sortedIdentities_eq_iff]
  constructor
  · intro h
    have hchars := congrArg String.toList h
    simp only [contentText, String.toList_append, String.toList_intercalate,
      List.map_map, List.append_assoc] at hchars
    refine Text.listed_injective Identity.separable_written ?_
      (List.append_cancel_left hchars)
    exact fun identity => ⟨_, _, identity.toList_written, by decide⟩
  · intro h
    rw [contentText, h, contentText]

/-! ## Names -/

namespace Payload

def identities (payload : Payload) : Finset Identity :=
  (payload.facts.map (·.identity)).toFinset

/-- The bytes that the digest of a payload without a name is taken of. -/
def digested (payload : Payload) : List UInt8 :=
  Text.encodeUtf8 (contentText (payload.facts.map (·.identity))).toList

theorem digested_eq_iff {first second : Payload} :
    first.digested = second.digested ↔
      first.identities = second.identities := by
  rw [digested, digested, Text.encodeUtf8_injective.eq_iff, String.toList_inj,
    contentText_eq_iff, identities, identities, Finset.ext_iff]
  simp only [List.mem_toFinset]

end Payload

namespace Registry

theorem source_of_merged {registry : Registry} {payload : Payload}
    (hunnamed : payload.givenSource = "")
    (hmerged : (registry.merge payload).report.rejected = false) :
    (registry.merge payload).report.source =
      "content:" ++ String.ofList ((Digest.sha1 payload.digested).take 16) := by
  rw [(registry.merge_eq payload).1, Payload.report] at hmerged ⊢
  split at hmerged
  · next haccepted =>
      rw [if_pos haccepted]
      simp only [Payload.sourceId, hunnamed, if_true]
      rfl
  · cases hmerged

/-- Unnamed fragments are named alike when they state the same identities,
whatever else they hold and wherever they are merged.  The bytes behind the
names tell the sets of identities apart, so that the names do as well unless the
digest gives both byte sequences the same first digits. -/
theorem contents_name_fragments (a b : Registry) {first second : Payload}
    (hfirst : first.givenSource = "") (hsecond : second.givenSource = "")
    (hmergedFirst : (a.merge first).report.rejected = false)
    (hmergedSecond : (b.merge second).report.rejected = false) :
    (a.merge first).report.source =
        "content:" ++ String.ofList ((Digest.sha1 first.digested).take 16) ∧
    (first.identities = second.identities →
      (a.merge first).report.source = (b.merge second).report.source) ∧
    (first.digested = second.digested ↔ first.identities = second.identities) ∧
    (((Digest.sha1 first.digested).take 16 =
      (Digest.sha1 second.digested).take 16 →
        first.digested = second.digested) →
      ((a.merge first).report.source = (b.merge second).report.source ↔
        first.identities = second.identities)) := by
  have hsource := source_of_merged hfirst hmergedFirst
  have hother := source_of_merged hsecond hmergedSecond
  have hbytes : first.digested = second.digested ↔
      first.identities = second.identities :=
    Payload.digested_eq_iff
  have hsame (h : first.identities = second.identities) :
      (a.merge first).report.source = (b.merge second).report.source := by
    rw [hsource, hother, hbytes.mpr h]
  refine ⟨hsource, hsame, hbytes, fun hcollision => ⟨fun h => ?_, hsame⟩⟩
  rw [hsource, hother, String.append_right_inj, String.ofList_inj] at h
  exact hbytes.mp (hcollision h)

def plainRecord (implementingType constraintText : String) : Record :=
  { Record.blank "a" with
    traitName := .text "T"
    implementingType := .text implementingType
    constraintText := .text constraintText }

/-- Two fragments that state the same in different ways are named alike, and one
whose texts only look the same when they are written without escapes is named
differently. -/
theorem contents_name_fragments_quotes :
    let quote := plainRecord "a', 'b" "\\"
    let control := plainRecord "\"(\x00\"" ""
    let tidy : Payload :=
      .fragment ⟨.byCrate [("a", .listed [.record control, .record quote])],
        .text ""⟩
    let untidy : Payload :=
      .fragment ⟨.byCrate [
        ("b", .listed [.record control, .other .null]), ("c", .other (.int 1)),
        ("a", .listed [.record { quote with synthetic := .bool true },
          .record control])], .null⟩
    let shifted : Payload :=
      .fragment ⟨.byCrate [
        ("a", .listed [.record control, .record (plainRecord "a" "b', '\\")])],
          .null⟩
    (empty.merge tidy).report.source =
    ((empty.merge shifted).registry.merge untidy).report.source ∧
      (empty.merge tidy).report.source ≠
      (empty.merge shifted).report.source := by
  intro quote control tidy untidy shifted
  have hsame : tidy.identities = untidy.identities := by decide +kernel
  have hother : tidy.identities ≠ shifted.identities := by decide +kernel
  obtain ⟨-, halike, -, -⟩ :=
    @contents_name_fragments empty (empty.merge shifted).registry tidy untidy
      rfl rfl rfl rfl
  obtain ⟨-, -, -, hdistinct⟩ :=
    @contents_name_fragments empty empty tidy shifted rfl rfl rfl rfl
  have hcollision :
      (Digest.sha1 tidy.digested).take 16 ≠
      (Digest.sha1 shifted.digested).take 16 := by
    simp only [Payload.digested, contentText]
    rw [sortedIdentities_of_sorted (by decide +kernel) (by decide +kernel),
      sortedIdentities_of_sorted (by decide +kernel) (by decide +kernel)]
    decide +kernel
  exact ⟨halike hsame,
    fun h => hother ((hdistinct fun hdigest => absurd hdigest hcollision).mp h)⟩

end Registry

end TraitIndex
