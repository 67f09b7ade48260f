import TraitIndex.Proofs.Markup.Spacing
import TraitIndex.Proofs.Outcome

/-!
# Plain text closed up again

Closing up leaves words singly spaced and no space around a token, with one
exception.  A space that is dropped behind `::` can bring a third colon next to
the two, and the space behind that colon was passed over before.  So a text that
has been closed up stays as it is when it is closed up again, unless three
colons stand before a space.
-/

namespace TraitIndex.Markup

/-! ## Single spaces -/

theorem startsWord_spaced {text : List Char} (h : StartsWord text) :
    StartsWord (spaced text) := by
  cases text with
  | nil => simp [StartsWord] at h
  | cons c rest =>
      have hc := startsWord_cons.mp h
      rw [spaced_plain hc, startsWord_cons]
      exact hc

theorem singlySpaced_spaced (text : List Char) :
    SinglySpaced (spaced text) := by
  induction text with
  | nil =>
      exact ⟨by simp [spaced, Text.splitWords],
        by simp [spaced, Text.splitWords],
      by simp [spaced, Text.splitWords]⟩
  | cons c rest ih =>
      cases hc : Text.isBlank c with
      | false => simp [spaced_plain hc, singlySpaced_cons_iff, ih, hc]
      | true =>
          by_cases hword : StartsWord rest
          · rw [spaced_blank hc hword, singlySpaced_cons_iff]
            exact ⟨ih, fun _ => ⟨rfl, startsWord_spaced hword⟩⟩
          · rwa [spaced_blanks hc hword]

/-- A text that is singly spaced and neither begins nor ends with a blank. -/
structure Spaced (text : List Char) : Prop where
  first : text = [] ∨ StartsWord text
  single : SinglySpaced text

theorem singleSpaced_eq_self_iff {text : List Char} :
    Text.singleSpaced text = text ↔ Spaced text := by
  rw [singleSpaced_eq_iff]
  constructor
  · rintro ⟨hfirst, hsingle⟩
    refine ⟨?_, hsingle⟩
    cases text with
    | nil => exact .inl rfl
    | cons c rest => exact .inr (startsWord_cons.mpr (hfirst c rfl))
  · rintro ⟨hfirst, hsingle⟩
    refine ⟨fun c hc => ?_, hsingle⟩
    obtain rfl | ⟨d, hd, hblank⟩ := hfirst
    · cases hc
    · rwa [Option.mem_unique hc hd]

theorem spaced_singleSpaced (text : List Char) :
    Spaced (Text.singleSpaced text) := by
  have hsingle := singlySpaced_spaced text
  by_cases hword : StartsWord text
  · rw [singleSpaced_of_startsWord hword]
    exact ⟨.inr (startsWord_spaced hword), hsingle⟩
  obtain ⟨hnil, hempty⟩ | hspace := spaced_of_not_startsWord hword
  · rw [hempty]
    exact ⟨.inl rfl, hnil ▸ hsingle⟩
  · rw [hspace, singlySpaced_cons_iff] at hsingle
    exact ⟨.inr (hsingle.2 (by decide)).2, hsingle.1⟩

/-! ## Spaces before closing tokens -/

/-- Dropping blanks does not change what the first word begins with. -/
theorem closerAhead_closeBefore (text : List Char) :
    closerAhead (closeBefore text) = closerAhead text := by
  induction text with
  | nil => rfl
  | cons c rest ih =>
      cases hc : Text.isBlank c <;> cases hcloser : closerAhead rest <;>
        simp [closeBefore, closerAhead, hc, hcloser, ih]

theorem closeBefore_closeBefore (text : List Char) :
    closeBefore (closeBefore text) = closeBefore text := by
  induction text with
  | nil => rfl
  | cons c rest ih =>
      rw [closeBefore]
      split
      · exact ih
      · next hkept =>
          rw [closeBefore_cons_eq_iff, closerAhead_closeBefore]
          exact ⟨ih, by simpa using hkept⟩

theorem startsWord_closeBefore {text : List Char} (h : StartsWord text) :
    StartsWord (closeBefore text) := by
  cases text with
  | nil => exact h
  | cons c rest =>
      have hc := startsWord_cons.mp h
      simp [closeBefore, startsWord_cons, hc]

theorem SinglySpaced.closeBefore {text : List Char} (h : SinglySpaced text) :
    SinglySpaced (closeBefore text) := by
  induction text with
  | nil => exact h
  | cons c rest ih =>
      obtain ⟨hrest, hc⟩ := singlySpaced_cons_iff.mp h
      rw [Markup.closeBefore]
      split
      · exact ih hrest
      · rw [singlySpaced_cons_iff]
        exact ⟨ih hrest, fun hblank =>
          (hc hblank).imp_right startsWord_closeBefore⟩

theorem Spaced.closeBefore {text : List Char} (h : Spaced text) :
    Spaced (closeBefore text) := by
  refine ⟨?_, h.single.closeBefore⟩
  obtain rfl | hword := h.first
  · exact .inl rfl
  · exact .inr (startsWord_closeBefore hword)

/-! ## Spaces after opening tokens -/

section

variable {text : List Char} (opened colon : Bool)

theorem closerAhead_closeAfterFrom :
    closerAhead (closeAfterFrom opened colon text) = closerAhead text := by
  induction text generalizing opened colon with
  | nil => rfl
  | cons c rest ih =>
      cases hc : Text.isBlank c <;> cases opened <;>
        simp [closeAfterFrom, closerAhead, hc, ih]

theorem closeBefore_closeAfterFrom (h : closeBefore text = text) :
    closeBefore (closeAfterFrom opened colon text) =
      closeAfterFrom opened colon text := by
  induction text generalizing opened colon with
  | nil => rfl
  | cons c rest ih =>
      obtain ⟨hrest, hc⟩ := closeBefore_cons_eq_iff.mp h
      have hkept (opened colon : Bool) :
          closeBefore (c :: closeAfterFrom opened colon rest) =
          c :: closeAfterFrom opened colon rest := by
        rw [closeBefore_cons_eq_iff, closerAhead_closeAfterFrom]
        exact ⟨ih opened colon hrest, hc⟩
      rw [closeAfterFrom]
      split
      · split
        · exact ih true false hrest
        · exact hkept false false
      · exact hkept _ _

theorem startsWord_closeAfterFrom (h : StartsWord text) :
    StartsWord (closeAfterFrom opened colon text) := by
  cases text with
  | nil => exact h
  | cons c rest =>
      have hc := startsWord_cons.mp h
      simp [closeAfterFrom, startsWord_cons, hc]

theorem SinglySpaced.closeAfterFrom (h : SinglySpaced text) :
    SinglySpaced (closeAfterFrom opened colon text) := by
  induction text generalizing opened colon with
  | nil => exact h
  | cons c rest ih =>
      obtain ⟨hrest, hc⟩ := singlySpaced_cons_iff.mp h
      have hkept (opened colon : Bool) :
          SinglySpaced (c :: Markup.closeAfterFrom opened colon rest) := by
        rw [singlySpaced_cons_iff]
        exact ⟨ih opened colon hrest, fun hblank =>
          (hc hblank).imp_right (startsWord_closeAfterFrom opened colon)⟩
      rw [Markup.closeAfterFrom]
      split
      · split
        · exact ih true false hrest
        · exact hkept false false
      · exact hkept _ _

theorem Spaced.closeAfter (h : Spaced text) : Spaced (closeAfter text) := by
  refine ⟨?_, h.single.closeAfterFrom false false⟩
  obtain rfl | hword := h.first
  · exact .inl rfl
  · exact .inr (startsWord_closeAfterFrom false false hword)

/-- Behind an opening token all blanks are dropped. -/
theorem not_space_prefix_closeAfterFrom :
    ¬[' '] <+: closeAfterFrom true colon text := by
  induction text generalizing colon with
  | nil => simp [closeAfterFrom]
  | cons c rest ih =>
      cases hc : Text.isBlank c with
      | true => simpa [closeAfterFrom, hc] using ih false
      | false =>
          have hne : ' ' ≠ c := by
            rintro rfl
            exact absurd hc (by decide)
          simp [closeAfterFrom, hc, List.cons_prefix_cons, hne]

theorem not_opener_space_infix {c : Char} (hc : isOpener c = true) :
    ¬[c, ' '] <:+: closeAfterFrom opened colon text := by
  induction text generalizing opened colon with
  | nil => simp [closeAfterFrom]
  | cons d rest ih =>
      have hopener : Text.isBlank c = false := by
        have hmem := isOpener_iff.mp hc
        simp only [List.mem_cons, List.not_mem_nil, or_false] at hmem
        obtain rfl | rfl | rfl | rfl := hmem <;> decide
      cases hd : Text.isBlank d with
      | true =>
          have hne : c ≠ d := by
            rintro rfl
            simp [hd] at hopener
          cases opened with
          | true => simpa [closeAfterFrom, hd] using ih true false
          | false =>
              simp only [closeAfterFrom, hd, if_true, Bool.false_eq_true,
                if_false]
              exact fun hoccurs => ih false false (infix_of_cons hne hoccurs)
      | false =>
          simp only [closeAfterFrom, hd, Bool.false_eq_true, if_false]
          intro hoccurs
          cases List.infix_cons_iff.mp hoccurs with
          | inr hrest => exact ih _ _ hrest
          | inl hstart =>
              obtain ⟨rfl, hspace⟩ := List.cons_prefix_cons.mp hstart
              rw [hc, Bool.true_or] at hspace
              exact not_space_prefix_closeAfterFrom _ hspace

end

/-! ## Colons -/

section

variable {text : List Char}

theorem not_colon_space_prefix_closeAfterFrom :
    ¬[':', ' '] <+: closeAfterFrom false true text := by
  cases text with
  | nil => simp [closeAfterFrom]
  | cons c rest =>
      intro hstart
      cases hc : Text.isBlank c with
      | true =>
          simp only [closeAfterFrom, hc, if_true, Bool.false_eq_true, if_false]
            at hstart
          obtain ⟨rfl, -⟩ := List.cons_prefix_cons.mp hstart
          exact absurd hc (by decide)
      | false =>
          simp only [closeAfterFrom, hc, Bool.false_eq_true, if_false] at hstart
          obtain ⟨rfl, hspace⟩ := List.cons_prefix_cons.mp hstart
          exact not_space_prefix_closeAfterFrom _ hspace

/-- Two colons before a space are a colon that follows another one. -/
theorem colon_of_prefix_closeAfterFrom {opened colon : Bool}
    (h : [':', ':', ' '] <+: closeAfterFrom opened colon text) :
    colon = true := by
  by_contra hfalse
  rw [Bool.not_eq_true] at hfalse
  subst hfalse
  induction text generalizing opened with
  | nil => simp [closeAfterFrom] at h
  | cons c rest ih =>
      cases hc : Text.isBlank c with
      | true =>
          cases opened with
          | true =>
              rw [closeAfterFrom, if_pos hc, if_pos rfl] at h
              exact ih h
          | false =>
              simp only [closeAfterFrom, hc, if_true, Bool.false_eq_true,
                if_false] at h
              obtain ⟨rfl, -⟩ := List.cons_prefix_cons.mp h
              exact absurd hc (by decide)
      | false =>
          simp only [closeAfterFrom, hc, Bool.false_eq_true, if_false] at h
          obtain ⟨rfl, hrest⟩ := List.cons_prefix_cons.mp h
          exact not_colon_space_prefix_closeAfterFrom hrest

theorem three_colons_of_occurs {opened colon : Bool}
    (h : [':', ':', ' '] <:+: closeAfterFrom opened colon text) :
    (colon = true ∧ [':', ':', ' '] <+: closeAfterFrom opened colon text) ∨
      [':', ':', ':', ' '] <:+: closeAfterFrom opened colon text := by
  induction text generalizing opened colon with
  | nil => simp [closeAfterFrom] at h
  | cons c rest ih =>
      -- A kept character continues the text; a colon adds to the two that
      -- follow it.
      have hkept (next : Bool) (hc : closeAfterFrom opened colon (c :: rest) =
          c :: closeAfterFrom next (c = ':') rest) :
          (colon = true ∧
              [':', ':', ' '] <+: closeAfterFrom opened colon (c :: rest)) ∨
            [':', ':', ':', ' '] <:+: closeAfterFrom opened colon
              (c :: rest) := by
        rw [hc, List.infix_cons_iff] at h
        obtain hstart | hlater := h
        · rw [← hc] at hstart
          exact .inl ⟨colon_of_prefix_closeAfterFrom hstart, hstart⟩
        · rw [hc]
          obtain ⟨hcolon, hstart⟩ | hthree := ih hlater
          · obtain rfl := of_decide_eq_true hcolon
            exact .inr (List.cons_prefix_cons.mpr ⟨rfl, hstart⟩).isInfix
          · exact .inr (List.infix_cons hthree)
      cases hc : Text.isBlank c with
      | false =>
          exact hkept (isOpener c || (colon && c = ':'))
            (by simp [closeAfterFrom, hc])
      | true =>
          have hne : (c = ':') = False := by
            simp only [eq_iff_iff, iff_false]
            rintro rfl
            exact absurd hc (by decide)
          cases opened with
          | false => exact hkept false (by simp [closeAfterFrom, hc, hne])
          | true =>
              simp only [closeAfterFrom, hc, if_true] at h ⊢
              obtain ⟨hfalse, -⟩ | hthree := ih h
              · cases hfalse
              · exact .inr hthree

end

/-! ## Closing up again -/

theorem spaced_closeUp (text : List Char) : Spaced (closeUp text) :=
  (spaced_singleSpaced text).closeBefore.closeAfter

/-- A text that has been closed up is clean, unless three colons stand before a
space. -/
theorem clean_closeUp_iff {text : List Char} :
    Clean (closeUp text) ↔ ¬[':', ':', ':', ' '] <:+: closeUp text := by
  constructor
  · intro hclean hthree
    have htwo : [':', ':', ' '] <:+: [':', ':', ':', ' '] := by decide
    exact hclean.notAfterColons (htwo.trans hthree)
  · intro hnone
    have hspaced := spaced_closeUp text
    have hbefore : closeBefore (closeUp text) = closeUp text :=
      closeBefore_closeAfterFrom false false (closeBefore_closeBefore _)
    obtain ⟨hfirst, -⟩ :=
      singleSpaced_eq_iff.mp (singleSpaced_eq_self_iff.mpr hspaced)
    exact {
      first := hfirst
      last := hspaced.single.last
      spaces := hspaced.single.spaces
      single := hspaced.single.single
      notBefore := (closeBefore_eq_iff hspaced.single).mp hbefore
      notAfter :=
        fun c hc => not_opener_space_infix false false (isOpener_iff.mpr hc)
      notAfterColons := fun htwo => (three_colons_of_occurs htwo).elim
        (fun h => nomatch h.1) hnone }

theorem closeUp_closeUp_iff {text : List Char} :
    closeUp (closeUp text) = closeUp text ↔
      ¬[':', ':', ':', ' '] <:+: closeUp text :=
  closeUp_eq_iff.trans clean_closeUp_iff

/-! ## Plain text -/

theorem exists_closeUp_of_plainText {markup text : String}
    (h : plainText markup = .ok text) :
    ∃ content, text = String.ofList (closeUp content) := by
  obtain ⟨plain, hplain, rfl⟩ := exists_of_map_eq_ok h
  obtain ⟨content, -, rfl⟩ := exists_of_map_eq_ok hplain
  exact ⟨content, rfl⟩

/-- Plain text comes back from the markup that shows it, unless three colons
stand in it before a space. -/
theorem plainText_escape_iff {markup text : String}
    (h : plainText markup = .ok text) :
    plainText (String.ofList (escape text.toList)) = .ok text ↔
      ¬[':', ':', ':', ' '] <:+: text.toList := by
  obtain ⟨content, rfl⟩ := exists_closeUp_of_plainText h
  rw [plainText_escape, Except.ok.injEq, String.ofList_inj,
    String.toList_ofList, closeUp_closeUp_iff]

end TraitIndex.Markup
