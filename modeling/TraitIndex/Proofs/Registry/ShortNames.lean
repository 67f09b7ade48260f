import Mathlib.Data.List.Infix
import TraitIndex.Proofs.Registry.Consistency

/-!
# Short names

A trait may be named by the last segment of its path.  What follows the last
`::` of a path is the one end of it that neither holds another `::` nor begins
with a colon, so a short name means exactly the known traits that end in it
behind a `::`.
-/

namespace TraitIndex

namespace Text

/-! ## The last occurrence -/

section

variable {part text after : List Char}

theorem not_suffix_of_afterLast?_eq_none (h : afterLast? part text = none)
    (other : List Char) :
    ¬part ++ other <:+ text := by
  induction text with
  | nil =>
      rw [afterLast?] at h
      intro hends
      have hnil : [] = part ++ other := (List.suffix_nil.mp hends).symm
      rw [stripInitial?_eq_some_iff.mpr hnil] at h
      cases h
  | cons c text ih =>
      rw [afterLast?] at h
      cases hlast : afterLast? part text with
      | some found => simp [hlast] at h
      | none =>
          rw [hlast] at h
          intro hends
          obtain hwhole | hrest := List.suffix_cons_iff.mp hends
          · rw [stripInitial?_eq_some_iff.mpr hwhole.symm] at h
            cases h
          · exact ih hlast hrest

/-- The last occurrence is the one with the least behind it. -/
theorem least_of_afterLast?_eq_some (h : afterLast? part text = some after) :
    part ++ after <:+ text ∧ ∀ other, part ++ other <:+ text →
      after.length ≤ other.length := by
  induction text with
  | nil =>
      have hnil : [] = part ++ after := stripInitial?_eq_some_iff.mp h
      obtain ⟨-, rfl⟩ := List.append_eq_nil_iff.mp hnil.symm
      exact ⟨List.suffix_nil.mpr hnil.symm, fun other _ => Nat.zero_le _⟩
  | cons c text ih =>
      rw [afterLast?] at h
      cases hlast : afterLast? part text with
      | some found =>
          rw [hlast] at h
          obtain rfl := Option.some.inj h
          obtain ⟨hends, hleast⟩ := ih hlast
          refine ⟨hends.trans (List.suffix_cons c text), fun other hother => ?_⟩
          obtain hwhole | hrest := List.suffix_cons_iff.mp hother
          · have hlength := congrArg List.length hwhole
            have hwithin := hends.length_le
            simp only [List.length_append, List.length_cons] at hlength hwithin
            omega
          · exact hleast other hrest
      | none =>
          rw [hlast] at h
          have hwhole : c :: text = part ++ after :=
            stripInitial?_eq_some_iff.mp h
          refine ⟨hwhole ▸ List.suffix_rfl, fun other hother => ?_⟩
          obtain hsame | hrest := List.suffix_cons_iff.mp hother
          · have hsame : part ++ other = part ++ after := hsame.trans hwhole
            rw [List.append_cancel_left hsame]
          · exact absurd hrest (not_suffix_of_afterLast?_eq_none hlast other)

end

/-! ## Segments of a path -/

/-- A text that can follow the last `::` of a path. -/
structure IsSegment (name : String) : Prop where
  undivided : ∀ before after, name ≠ before ++ "::" ++ after
  noColon : ∀ rest, name ≠ ":" ++ rest

theorem isSuffix_iff {path name : String} :
    [':', ':'] ++ name.toList <:+ path.toList ↔
      ∃ before, path = before ++ "::" ++ name := by
  constructor
  · rintro ⟨before, h⟩
    exact ⟨String.ofList before, String.toList_inj.mp (by simp [← h])⟩
  · rintro ⟨before, rfl⟩
    exact ⟨before.toList, by simp⟩

/-- Behind the last `::` of a path stands a segment. -/
theorem isSegment_of_least {path name : String}
    (h : ∀ other, [':', ':'] ++ other <:+ path.toList →
      name.toList.length ≤ other.length)
    (hends : [':', ':'] ++ name.toList <:+ path.toList) : IsSegment name where
  undivided before after hname := by
    have hlater : [':', ':'] ++ after.toList <:+ path.toList :=
      (isSuffix_iff.mpr ⟨before, hname⟩).trans
      ((List.suffix_append _ _).trans hends)
    have hlength := h _ hlater
    rw [hname] at hlength
    simp only [String.toList_append, List.length_append] at hlength
    have hcolons : "::".toList.length = 2 := rfl
    omega
  noColon rest hname := by
    have hlater : [':', ':'] ++ rest.toList <:+ path.toList := by
      refine List.IsSuffix.trans ⟨[':'], ?_⟩ hends
      simp [hname]
    have hlength := h _ hlater
    rw [hname] at hlength
    simp only [String.toList_append, List.length_append] at hlength
    have hcolon : ":".toList.length = 1 := rfl
    omega

/-- A segment behind a `::` ends no later occurrence of it. -/
theorem IsSegment.least {path name : String} (h : IsSegment name)
    (hends : [':', ':'] ++ name.toList <:+ path.toList) {other : List Char}
    (hother : [':', ':'] ++ other <:+ path.toList) :
    name.toList.length ≤ other.length := by
  by_contra hshorter
  have hwithin : ':' :: ':' :: other <:+ ':' :: ':' :: name.toList :=
    List.suffix_of_suffix_length_le hother hends (by simp; omega)
  obtain hsame | hrest := List.suffix_cons_iff.mp hwithin
  · have hlength := congrArg List.length hsame
    simp only [List.length_cons] at hlength
    omega
  obtain hcolon | hinside := List.suffix_cons_iff.mp hrest
  · have hname : ':' :: other = name.toList := (List.cons.inj hcolon).2
    exact h.noColon (String.ofList other)
      (String.toList_inj.mp (by simp [← hname]))
  · obtain ⟨before, hname⟩ := hinside
    exact h.undivided (String.ofList before) (String.ofList other)
      (String.toList_inj.mp (by simp [← hname]))

/-- A name is the last segment of a path when the path ends in it behind a `::`
and it is a segment, or when the path is the name and is not divided. -/
theorem lastSegment_eq_iff {path name : String} : lastSegment path = name ↔
    (IsSegment name ∧ ∃ before, path = before ++ "::" ++ name) ∨
      (path = name ∧ ∀ before after, path ≠ before ++ "::" ++ after) := by
  rw [lastSegment]
  cases hlast : afterLast? [':', ':'] path.toList with
  | none =>
      have hundivided (before after : String) :
          path ≠ before ++ "::" ++ after := fun hpath =>
        not_suffix_of_afterLast?_eq_none hlast after.toList
          (isSuffix_iff.mpr ⟨before, hpath⟩)
      constructor
      · exact fun hname => .inr ⟨hname, hundivided⟩
      · rintro (⟨-, before, hpath⟩ | ⟨hname, -⟩)
        · exact absurd hpath (hundivided before name)
        · exact hname
  | some segment =>
      obtain ⟨hends, hleast⟩ := least_of_afterLast?_eq_some hlast
      constructor
      · rintro rfl
        have hends : [':', ':'] ++ (String.ofList segment).toList <:+
            path.toList := by
          rwa [String.toList_ofList]
        exact .inl ⟨isSegment_of_least (by simpa using hleast) hends,
          isSuffix_iff.mp hends⟩
      · rintro (⟨hsegment, hpath⟩ | ⟨-, hundivided⟩)
        · have hname := isSuffix_iff.mpr hpath
          have hlength : segment.length = name.toList.length :=
            Nat.le_antisymm (hleast _ hname) (hsegment.least hname hends)
          have hwithin :=
            List.suffix_of_suffix_length_le hends hname (by simp [hlength])
          have hsame := hwithin.eq_of_length (by simp [hlength])
          change String.ofList segment = name
          rw [List.append_cancel_left hsame, String.ofList_toList]
        · obtain ⟨before, hpath⟩ := isSuffix_iff.mp
            (show [':', ':'] ++ (String.ofList segment).toList <:+
              path.toList by
              rwa [String.toList_ofList])
          exact absurd hpath (hundivided before _)

example : lastSegment "a:::b::" = "" ∧ lastSegment "a:::b" = "b" ∧
    lastSegment ":b" = ":b" := by
  decide

end Text

namespace Registry

open Text

variable {registry : Registry}

theorem resolve_of_mem {name : String} (h : name ∈ registry.traits) :
    registry.resolve name = [name] := by
  rw [resolve, if_pos (knows_iff_mem_traits.mpr h)]

theorem resolve_of_not_mem {name : String} (h : name ∉ registry.traits) :
    registry.resolve name = registry.traits.filter (lastSegment · == name) := by
  rw [resolve, if_neg (mt knows_iff_mem_traits.mp h)]

theorem resolve_sublist {name : String} (h : name ∉ registry.traits) :
    (registry.resolve name).Sublist registry.traits := by
  rw [resolve_of_not_mem h]
  exact List.filter_sublist

theorem mem_resolve_iff {name traitName : String} (h : name ∉ registry.traits) :
    traitName ∈ registry.resolve name ↔
      traitName ∈ registry.traits ∧ IsSegment name ∧
        ∃ before, traitName = before ++ "::" ++ name := by
  rw [resolve_of_not_mem h, List.mem_filter, beq_iff_eq, lastSegment_eq_iff]
  refine and_congr_right fun htrait => or_iff_left ?_
  rintro ⟨rfl, -⟩
  exact h htrait

theorem mem_traits_of_mem_resolve {name traitName : String}
    (h : traitName ∈ registry.resolve name) : traitName ∈ registry.traits := by
  by_cases hname : name ∈ registry.traits
  · rw [resolve_of_mem hname, List.mem_singleton] at h
    exact h ▸ hname
  · exact (resolve_sublist hname).mem h

end Registry

namespace Hub

open Text Registry

/-- What a name means to a registry after any steps of any hub it started empty
in.  A known trait means itself.  Any other name means nothing when it holds a
`::` or begins with a colon, and otherwise the known traits that end in it
behind a `::`, each once and in order. -/
theorem run_resolve (steps : List Step) (registryName : String) :
    let registry := (empty.run steps).registry registryName
    (∀ name ∈ registry.traits, registry.resolve name = [name]) ∧
      (∀ name ∉ registry.traits, ¬IsSegment name → registry.resolve name = []) ∧
      (∀ name ∉ registry.traits, IsSegment name →
        (registry.resolve name).Pairwise (· < ·) ∧
          ∀ traitName, traitName ∈ registry.resolve name ↔
            traitName ∈ registry.traits ∧ ∃ before,
              traitName = before ++ "::" ++ name) ∧
      (∀ traitName ∈ registry.traits, lastSegment traitName ∈ registry.traits ∨
        (IsSegment (lastSegment traitName) ∧
          (∃ before, traitName = before ++ "::" ++ lastSegment traitName) ∧
          traitName ∈ registry.resolve (lastSegment traitName))) ∧
      ∀ name, ∀ traitName ∈ registry.resolve name,
        traitName ∈ registry.traits ∧ registry.resolve traitName =
          [traitName] := by
  intro registry
  have hempty : (empty.registry registryName).Consistent := .empty
  have hconsistent : registry.Consistent := run_consistent hempty steps
  refine ⟨fun name hname => resolve_of_mem hname, ?_, ?_, ?_, ?_⟩
  · intro name hname hdivided
    refine List.eq_nil_iff_forall_not_mem.mpr fun traitName htrait => ?_
    exact hdivided ((mem_resolve_iff hname).mp htrait).2.1
  · intro name hname hsegment
    refine ⟨hconsistent.pairwise_traits_lt.sublist (resolve_sublist hname),
      fun traitName => ?_⟩
    rw [mem_resolve_iff hname]
    simp only [hsegment, true_and]
  · intro traitName htrait
    refine or_iff_not_imp_left.mpr fun hunknown => ?_
    obtain ⟨hsegment, hends⟩ | ⟨hsame, -⟩ :=
      lastSegment_eq_iff.mp (Eq.refl (lastSegment traitName))
    · exact ⟨hsegment, hends, (mem_resolve_iff hunknown).mpr
        ⟨htrait, hsegment, hends⟩⟩
    · exact absurd (hsame ▸ htrait) hunknown
  · intro name traitName hresolved
    have htrait := mem_traits_of_mem_resolve hresolved
    exact ⟨htrait, resolve_of_mem htrait⟩

end Hub

end TraitIndex
