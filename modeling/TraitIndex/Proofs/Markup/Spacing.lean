import TraitIndex.Proofs.Markup.References

/-!
# The texts that closing up leaves alone

Plain text is made by spacing words singly and closing up the spaces that markup
left around tokens.  None of the three steps makes a text longer, so a text that
they leave alone together is left alone by each of them, and that can be read
off its neighbouring characters.
-/

namespace TraitIndex.Markup

/-- The spacing of a text that needs no closing up. -/
structure Clean (text : List Char) : Prop where
  first : ∀ c ∈ text.head?, Text.isBlank c = false
  last : ∀ c ∈ text.getLast?, Text.isBlank c = false
  spaces : ∀ c ∈ text, Text.isBlank c = true → c = ' '
  single : ¬[' ', ' '] <:+: text
  notBefore : ∀ c ∈ ['<', '>', ',', ')', ']'], ¬[' ', c] <:+: text
  notAfter : ∀ c ∈ ['(', '<', '&', '['], ¬[c, ' '] <:+: text
  notAfterColons : ¬[':', ':', ' '] <:+: text

def closeUp (text : List Char) : List Char :=
  closeAfter (closeBefore (Text.singleSpaced text))

/-! ## Single spaces -/

/-- A text with its first word complete: single spaces between words, and blanks
before the first word as one space. -/
def spaced (text : List Char) : List Char :=
  (Text.splitWords text).1 ++ (Text.splitWords text).2.flatMap (' ' :: ·)

theorem intercalate_cons (word : List Char) (words : List (List Char)) :
    List.intercalate [' '] (word :: words) =
      word ++ words.flatMap (' ' :: ·) := by
  induction words generalizing word with
  | nil => simp
  | cons next words ih => simp [List.intercalate_cons_cons, ih]

/-- The text starts in the middle of a word. -/
def StartsWord (text : List Char) : Prop :=
  ∃ c ∈ text.head?, Text.isBlank c = false

theorem startsWord_cons {c : Char} {rest : List Char} :
    StartsWord (c :: rest) ↔ Text.isBlank c = false := by
  simp [StartsWord]

theorem splitWords_fst_eq_nil_iff {text : List Char} :
    (Text.splitWords text).1 = [] ↔ ¬StartsWord text := by
  cases text with
  | nil => simp [Text.splitWords, StartsWord]
  | cons c rest =>
      rw [startsWord_cons, Text.splitWords]
      cases Text.isBlank c <;> simp

theorem spaced_plain {c : Char} (h : Text.isBlank c = false)
    (rest : List Char) :
    spaced (c :: rest) = c :: spaced rest := by
  simp [spaced, Text.splitWords, h]

theorem spaced_blank {c : Char} (h : Text.isBlank c = true) {rest : List Char}
    (hword : StartsWord rest) : spaced (c :: rest) = ' ' :: spaced rest := by
  have hne : (Text.splitWords rest).1 ≠ [] := fun hnil =>
    splitWords_fst_eq_nil_iff.mp hnil hword
  simp [spaced, Text.splitWords, h, Text.consWord, hne]

theorem spaced_blanks {c : Char} (h : Text.isBlank c = true) {rest : List Char}
    (hword : ¬StartsWord rest) : spaced (c :: rest) = spaced rest := by
  have hnil := splitWords_fst_eq_nil_iff.mpr hword
  simp [spaced, Text.splitWords, h, Text.consWord, hnil]

theorem length_spaced_le (text : List Char) :
    (spaced text).length ≤ text.length := by
  induction text with
  | nil => simp [spaced, Text.splitWords]
  | cons c rest ih =>
      cases hc : Text.isBlank c with
      | false =>
          rw [spaced_plain hc]
          exact Nat.succ_le_succ ih
      | true =>
          by_cases hword : StartsWord rest
          · rw [spaced_blank hc hword]
            exact Nat.succ_le_succ ih
          · rw [spaced_blanks hc hword]
            exact Nat.le_succ_of_le ih

theorem spaced_cons_eq_iff {c : Char} {rest : List Char} :
    spaced (c :: rest) = c :: rest ↔
      spaced rest = rest ∧
        (Text.isBlank c = true → c = ' ' ∧ StartsWord rest) := by
  cases hc : Text.isBlank c with
  | false => simp [spaced_plain hc]
  | true =>
      by_cases hword : StartsWord rest
      · simp [spaced_blank hc hword, hword, and_comm, eq_comm]
      · -- The blank is dropped, so what is left cannot be as long as the text.
        have hlength := length_spaced_le rest
        constructor
        · intro heq
          rw [spaced_blanks hc hword] at heq
          rw [heq] at hlength
          exact absurd hlength (Nat.not_succ_le_self _)
        · rintro ⟨-, h⟩
          exact absurd (h rfl).2 hword

/-- Every blank is a single space with a word after it. -/
structure SinglySpaced (text : List Char) : Prop where
  last : ∀ c ∈ text.getLast?, Text.isBlank c = false
  spaces : ∀ c ∈ text, Text.isBlank c = true → c = ' '
  single : ¬[' ', ' '] <:+: text

theorem singlySpaced_cons_iff {c : Char} {rest : List Char} :
    SinglySpaced (c :: rest) ↔
      SinglySpaced rest ∧
        (Text.isBlank c = true → c = ' ' ∧ StartsWord rest) := by
  have hspace : Text.isBlank ' ' = true := by decide
  constructor
  · intro h
    have hspaces : ∀ d ∈ rest, Text.isBlank d = true → d = ' ' := fun d hd =>
      h.spaces d (List.mem_cons_of_mem _ hd)
    refine ⟨⟨?_, hspaces, fun hoccurs => h.single (List.infix_cons hoccurs)⟩,
      ?_⟩
    · intro d hd
      apply h.last
      cases rest with
      | nil => simp at hd
      | cons e rest => exact hd
    · intro hc
      have hcspace := h.spaces c List.mem_cons_self hc
      refine ⟨hcspace, ?_⟩
      cases rest with
      | nil => exact absurd (h.last c rfl) (by simp [hc])
      | cons d rest =>
          rw [startsWord_cons]
          cases hd : Text.isBlank d with
          | false => rfl
          | true =>
              have hdspace := hspaces d List.mem_cons_self hd
              rw [hcspace, hdspace] at h
              exact absurd (List.prefix_append [' ', ' '] rest).isInfix h.single
  · rintro ⟨h, hc⟩
    refine ⟨?_, ?_, ?_⟩
    · intro d hd
      cases rest with
      | nil =>
          obtain rfl : c = d := by simpa using hd
          cases hblank : Text.isBlank c with
          | false => rfl
          | true => simp [StartsWord, hblank] at hc
      | cons e rest => exact h.last d hd
    · intro d hd
      cases List.mem_cons.mp hd with
      | inl heq => exact heq ▸ fun hblank => (hc hblank).1
      | inr hmem => exact h.spaces d hmem
    · intro hoccurs
      cases List.infix_cons_iff.mp hoccurs with
      | inr hrest => exact h.single hrest
      | inl hstart =>
          obtain ⟨hcspace, hrest⟩ := List.cons_prefix_cons.mp hstart
          subst hcspace
          cases rest with
          | nil => simp at hrest
          | cons d rest =>
              obtain ⟨hdspace, -⟩ := List.cons_prefix_cons.mp hrest
              subst hdspace
              have hword := (hc hspace).2
              rw [startsWord_cons, hspace] at hword
              cases hword

theorem spaced_eq_iff {text : List Char} :
    spaced text = text ↔ SinglySpaced text := by
  induction text with
  | nil =>
      have hnil : SinglySpaced [] := ⟨by simp, by simp, by simp⟩
      exact iff_of_true rfl hnil
  | cons c rest ih => rw [spaced_cons_eq_iff, singlySpaced_cons_iff, ih]

theorem singleSpaced_of_startsWord {text : List Char} (h : StartsWord text) :
    Text.singleSpaced text = spaced text := by
  have hne : (Text.splitWords text).1 ≠ [] :=
    fun hnil => splitWords_fst_eq_nil_iff.mp hnil h
  simp only [Text.singleSpaced, Text.words, Text.consWord, List.isEmpty_iff,
    hne, if_false, intercalate_cons, spaced]

theorem spaced_of_not_startsWord {text : List Char} (h : ¬StartsWord text) :
    (spaced text = [] ∧ Text.singleSpaced text = []) ∨
      spaced text = ' ' :: Text.singleSpaced text := by
  have hnil := splitWords_fst_eq_nil_iff.mpr h
  simp only [Text.singleSpaced, Text.words, Text.consWord, spaced, hnil,
    List.isEmpty_nil, if_true]
  cases (Text.splitWords text).2 with
  | nil => exact .inl ⟨rfl, rfl⟩
  | cons word words =>
      exact .inr (by rw [intercalate_cons, List.flatMap_cons]; rfl)

theorem length_singleSpaced_le (text : List Char) :
    (Text.singleSpaced text).length ≤ text.length := by
  have hlength := length_spaced_le text
  by_cases h : StartsWord text
  · rw [singleSpaced_of_startsWord h]
    exact hlength
  obtain ⟨-, hnil⟩ | hspace := spaced_of_not_startsWord h
  · rw [hnil]
    exact Nat.zero_le _
  · rw [hspace] at hlength
    exact Nat.le_of_succ_le hlength

theorem singleSpaced_eq_iff {text : List Char} :
    Text.singleSpaced text = text ↔
      (∀ c ∈ text.head?, Text.isBlank c = false) ∧ SinglySpaced text := by
  cases text with
  | nil =>
      have hnil : SinglySpaced [] := ⟨by simp, by simp, by simp⟩
      exact iff_of_true rfl ⟨by simp, hnil⟩
  | cons c rest =>
      have hfirst : (∀ d ∈ (c :: rest).head?, Text.isBlank d = false) ↔
          StartsWord (c :: rest) := by
        simp [startsWord_cons]
      rw [hfirst, ← spaced_eq_iff]
      constructor
      · intro heq
        by_cases h : StartsWord (c :: rest)
        · exact ⟨h, by rw [← singleSpaced_of_startsWord h, heq]⟩
        · obtain ⟨-, hnil⟩ | hspace := spaced_of_not_startsWord h
          · rw [hnil] at heq
            cases heq
          · have hlength := length_spaced_le (c :: rest)
            rw [hspace, heq] at hlength
            exact absurd hlength (Nat.not_succ_le_self _)
      · rintro ⟨h, heq⟩
        rw [singleSpaced_of_startsWord h, heq]

/-! ## Spaces before closing tokens -/

theorem closeBefore_sublist (text : List Char) :
    (closeBefore text).Sublist text := by
  induction text with
  | nil => exact List.Sublist.refl []
  | cons c rest ih =>
      rw [closeBefore]
      split
      · exact ih.trans (List.sublist_cons_self c rest)
      · exact ih.cons_cons c

theorem closeBefore_cons_eq_iff {c : Char} {rest : List Char} :
    closeBefore (c :: rest) = c :: rest ↔
      closeBefore rest = rest ∧
        ¬(Text.isBlank c = true ∧ closerAhead rest = true) := by
  have hlength := (closeBefore_sublist rest).length_le
  rw [closeBefore, ← Bool.and_eq_true]
  split
  · next hdropped =>
      constructor
      · intro heq
        rw [heq] at hlength
        exact absurd hlength (Nat.not_succ_le_self _)
      · rintro ⟨-, hkept⟩
        exact absurd hdropped hkept
  · next hkept => simp [hkept]

theorem isCloser_iff {c : Char} :
    isCloser c = true ↔ c ∈ ['<', '>', ',', ')', ']'] := by
  simp [isCloser, or_assoc]

theorem closeBefore_eq_iff {text : List Char} (h : SinglySpaced text) :
    closeBefore text = text ↔ ∀ c ∈ ['<', '>', ',', ')', ']'],
      ¬[' ', c] <:+: text := by
  induction text with
  | nil => simp [closeBefore]
  | cons c rest ih =>
      obtain ⟨hrest, hc⟩ := singlySpaced_cons_iff.mp h
      have hstep : (Text.isBlank c = true ∧ closerAhead rest = true) ↔
          ∃ d ∈ ['<', '>', ',', ')', ']'], [' ', d] <+: c :: rest := by
        constructor
        · rintro ⟨hblank, hcloser⟩
          obtain ⟨rfl, hword⟩ := hc hblank
          cases rest with
          | nil => cases hcloser
          | cons d rest =>
              rw [startsWord_cons] at hword
              rw [closerAhead, hword, if_neg Bool.false_ne_true] at hcloser
              exact ⟨d, isCloser_iff.mp hcloser,
                List.prefix_append [' ', d] rest⟩
        · rintro ⟨d, hd, hstart⟩
          obtain ⟨rfl, hrest⟩ := List.cons_prefix_cons.mp hstart
          have hblank : Text.isBlank ' ' = true := by decide
          refine ⟨hblank, ?_⟩
          have hword := (hc hblank).2
          cases rest with
          | nil => simp at hrest
          | cons e rest =>
              obtain ⟨rfl, -⟩ := List.cons_prefix_cons.mp hrest
              rw [startsWord_cons] at hword
              rw [closerAhead, hword, if_neg Bool.false_ne_true]
              exact isCloser_iff.mpr hd
      rw [closeBefore_cons_eq_iff, ih hrest, hstep]
      simp only [List.infix_cons_iff]
      constructor
      · rintro ⟨hoccurs, hstart⟩ d hd (hfirst | hlater)
        · exact hstart ⟨d, hd, hfirst⟩
        · exact hoccurs d hd hlater
      · intro hnone
        refine ⟨fun d hd hlater => hnone d hd (.inr hlater), ?_⟩
        rintro ⟨d, hd, hfirst⟩
        exact hnone d hd (.inl hfirst)

/-! ## Spaces after opening tokens -/

theorem closeAfterFrom_sublist (opened colon : Bool) (text : List Char) :
    (closeAfterFrom opened colon text).Sublist text := by
  induction text generalizing opened colon with
  | nil => exact List.Sublist.refl []
  | cons c rest ih =>
      rw [closeAfterFrom]
      split
      · split
        · exact (ih true false).trans (List.sublist_cons_self c rest)
        · exact (ih false false).cons_cons c
      · exact (ih _ _).cons_cons c

theorem isOpener_iff {c : Char} :
    isOpener c = true ↔ c ∈ ['(', '<', '&', '['] := by
  simp [isOpener, or_assoc]

/-- No space follows an opening token or `::`, when the text stands after a text
that ends in an opening token or in a colon. -/
structure ClosedAfter (opened colon : Bool) (text : List Char) : Prop where
  atStart : opened = true → ¬[' '] <+: text
  atColon : colon = true → ¬[':', ' '] <+: text
  notAfter : ∀ c ∈ ['(', '<', '&', '['], ¬[c, ' '] <:+: text
  notAfterColons : ¬[':', ':', ' '] <:+: text

theorem infix_of_cons {c d : Char} {pattern rest : List Char} (hne : d ≠ c)
    (h : d :: pattern <:+: c :: rest) : d :: pattern <:+: rest := by
  cases List.infix_cons_iff.mp h with
  | inl hstart => exact absurd (List.cons_prefix_cons.mp hstart).1 hne
  | inr hrest => exact hrest

theorem closedAfter_space {opened colon : Bool} {rest : List Char} :
    ClosedAfter opened colon (' ' :: rest) ↔
      opened = false ∧ ClosedAfter false false rest := by
  constructor
  · intro h
    refine ⟨?_, by simp, by simp, ?_, fun hoccurs => h.notAfterColons
      (List.infix_cons hoccurs)⟩
    · cases opened with
      | false => rfl
      | true => exact absurd (List.prefix_append [' '] rest) (h.atStart rfl)
    · intro c hc hoccurs
      exact h.notAfter c hc (List.infix_cons hoccurs)
  · rintro ⟨rfl, h⟩
    refine ⟨by simp, ?_, ?_, ?_⟩
    · intro hcolon hstart
      exact absurd (List.cons_prefix_cons.mp hstart).1 (by decide)
    · intro c hc hoccurs
      have hne : c ≠ ' ' := fun heq => absurd (heq ▸ hc) (by decide)
      exact h.notAfter c hc (infix_of_cons hne hoccurs)
    · intro hoccurs
      exact h.notAfterColons (infix_of_cons (by decide) hoccurs)

theorem closedAfter_plain {opened colon : Bool} {c : Char} {rest : List Char}
    (hc : c ≠ ' ') :
    ClosedAfter opened colon (c :: rest) ↔
      ClosedAfter (isOpener c || (colon && c = ':')) (c = ':') rest := by
  constructor
  · intro h
    refine ⟨?_, ?_, ?_, fun hoccurs => h.notAfterColons
      (List.infix_cons hoccurs)⟩
    · intro hopened hstart
      simp only [Bool.or_eq_true, Bool.and_eq_true, decide_eq_true_eq]
        at hopened
      have hboth : [c, ' '] <+: c :: rest :=
        List.cons_prefix_cons.mpr ⟨rfl, hstart⟩
      obtain hopener | ⟨hcolon, rfl⟩ := hopened
      · exact h.notAfter c (isOpener_iff.mp hopener) hboth.isInfix
      · exact h.atColon hcolon hboth
    · intro hcolon hstart
      obtain rfl := of_decide_eq_true hcolon
      exact h.notAfterColons (List.cons_prefix_cons.mpr ⟨rfl, hstart⟩).isInfix
    · intro d hd hoccurs
      exact h.notAfter d hd (List.infix_cons hoccurs)
  · intro h
    refine ⟨?_, ?_, ?_, ?_⟩
    · intro _ hstart
      exact hc (List.cons_prefix_cons.mp hstart).1.symm
    · intro hcolon hstart
      obtain ⟨rfl, hrest⟩ := List.cons_prefix_cons.mp hstart
      exact h.atStart (by simp [hcolon]) hrest
    · intro d hd hoccurs
      cases List.infix_cons_iff.mp hoccurs with
      | inl hstart =>
          obtain ⟨rfl, hrest⟩ := List.cons_prefix_cons.mp hstart
          exact h.atStart (by simp [isOpener_iff.mpr hd]) hrest
      | inr hrest => exact h.notAfter d hd hrest
    · intro hoccurs
      cases List.infix_cons_iff.mp hoccurs with
      | inl hstart =>
          obtain ⟨rfl, hrest⟩ := List.cons_prefix_cons.mp hstart
          exact h.atColon (by simp) hrest
      | inr hrest => exact h.notAfterColons hrest

theorem closeAfterFrom_eq_iff {text : List Char}
    (h : ∀ c ∈ text, Text.isBlank c = true → c = ' ') (opened colon : Bool) :
    closeAfterFrom opened colon text = text ↔
      ClosedAfter opened colon text := by
  induction text generalizing opened colon with
  | nil =>
      have hnil : ClosedAfter opened colon [] :=
        ⟨by simp, by simp, by simp, by simp⟩
      exact iff_of_true rfl hnil
  | cons c rest ih =>
      have ih := ih fun d hd => h d (List.mem_cons_of_mem _ hd)
      by_cases hc : c = ' '
      · subst hc
        have hblank : Text.isBlank ' ' = true := by decide
        rw [closeAfterFrom, if_pos hblank, closedAfter_space]
        cases opened with
        | false => simp [ih]
        | true =>
            have hlength := (closeAfterFrom_sublist true false rest).length_le
            constructor
            · intro heq
              rw [if_pos rfl] at heq
              rw [heq] at hlength
              exact absurd hlength (Nat.not_succ_le_self _)
            · rintro ⟨hopened, -⟩
              cases hopened
      · have hblank : ¬Text.isBlank c = true :=
          fun hb => hc (h c List.mem_cons_self hb)
        rw [closeAfterFrom, if_neg hblank, closedAfter_plain hc, ←
          ih, List.cons_eq_cons]
        simp

theorem closeAfter_sublist (text : List Char) :
    (closeAfter text).Sublist text :=
  closeAfterFrom_sublist false false text

/-! ## What is kept -/

section

variable {c : Char} {text : List Char} (hc : Text.isBlank c = false)

include hc

theorem mem_spaced (h : c ∈ text) : c ∈ spaced text := by
  induction text with
  | nil => exact absurd h List.not_mem_nil
  | cons d rest ih =>
      cases hd : Text.isBlank d with
      | false =>
          rw [spaced_plain hd]
          cases List.mem_cons.mp h with
          | inl heq => exact heq ▸ List.mem_cons_self
          | inr hrest => exact List.mem_cons_of_mem _ (ih hrest)
      | true =>
          have hne : c ≠ d := fun heq => by simp [heq, hd] at hc
          have hrest := ih (List.mem_of_ne_of_mem hne h)
          by_cases hword : StartsWord rest
          · rw [spaced_blank hd hword]
            exact List.mem_cons_of_mem _ hrest
          · rw [spaced_blanks hd hword]
            exact hrest

theorem mem_singleSpaced (h : c ∈ text) : c ∈ Text.singleSpaced text := by
  have hmem := mem_spaced hc h
  by_cases hword : StartsWord text
  · rw [singleSpaced_of_startsWord hword]
    exact hmem
  obtain ⟨hnil, -⟩ | hspace := spaced_of_not_startsWord hword
  · rw [hnil] at hmem
    exact absurd hmem List.not_mem_nil
  · have hne : c ≠ ' ' := fun heq => by
      rw [heq] at hc
      exact absurd hc (by decide)
    rw [hspace] at hmem
    exact List.mem_of_ne_of_mem hne hmem

theorem mem_closeBefore (h : c ∈ text) : c ∈ closeBefore text := by
  induction text with
  | nil => exact absurd h List.not_mem_nil
  | cons d rest ih =>
      rw [closeBefore]
      cases List.mem_cons.mp h with
      | inl heq =>
          rw [← heq, hc, Bool.false_and]
          exact List.mem_cons_self
      | inr hrest =>
          split
          · exact ih hrest
          · exact List.mem_cons_of_mem _ (ih hrest)

theorem mem_closeAfterFrom (opened colon : Bool) (h : c ∈ text) :
    c ∈ closeAfterFrom opened colon text := by
  induction text generalizing opened colon with
  | nil => exact absurd h List.not_mem_nil
  | cons d rest ih =>
      rw [closeAfterFrom]
      cases List.mem_cons.mp h with
      | inl heq =>
          rw [← heq, hc, if_neg Bool.false_ne_true]
          exact List.mem_cons_self
      | inr hrest =>
          split
          · split
            · exact ih true false hrest
            · exact List.mem_cons_of_mem _ (ih false false hrest)
          · exact List.mem_cons_of_mem _ (ih _ _ hrest)

theorem mem_closeUp (h : c ∈ text) : c ∈ closeUp text :=
  mem_closeAfterFrom hc false false (mem_closeBefore hc (mem_singleSpaced hc h))

end

/-! ## All three steps -/

theorem closeUp_eq_iff_each {text : List Char} :
    closeUp text = text ↔
      Text.singleSpaced text = text ∧ closeBefore text = text ∧
        closeAfter text = text := by
  constructor
  · -- No step makes a text longer, so none of them drops anything when all
    -- together do not.
    intro h
    have hspaced := length_singleSpaced_le text
    have hbefore := closeBefore_sublist (Text.singleSpaced text)
    have hafter := closeAfter_sublist (closeBefore (Text.singleSpaced text))
    have hlength : (closeAfter (closeBefore (Text.singleSpaced text))).length =
        text.length :=
      congrArg List.length h
    have hbeforeEq := hbefore.eq_of_length
      (Nat.le_antisymm hbefore.length_le (by have := hafter.length_le; omega))
    have hafterEq := hafter.eq_of_length
      (Nat.le_antisymm hafter.length_le (by have := hbefore.length_le; omega))
    have hspacedEq : Text.singleSpaced text = text := by
      rw [← hbeforeEq, ← hafterEq]
      exact h
    rw [hspacedEq] at hbeforeEq hafterEq
    rw [hbeforeEq] at hafterEq
    exact ⟨hspacedEq, hbeforeEq, hafterEq⟩
  · rintro ⟨hspaced, hbefore, hafter⟩
    rw [closeUp, hspaced, hbefore, hafter]

/-- The texts that are plain already. -/
theorem closeUp_eq_iff {text : List Char} :
    closeUp text = text ↔ Clean text := by
  rw [closeUp_eq_iff_each, singleSpaced_eq_iff]
  constructor
  · rintro ⟨⟨hfirst, hsingle⟩, hbefore, hafter⟩
    have hclosed := (closeAfterFrom_eq_iff hsingle.spaces false false).mp hafter
    exact {
      first := hfirst
      last := hsingle.last
      spaces := hsingle.spaces
      single := hsingle.single
      notBefore := (closeBefore_eq_iff hsingle).mp hbefore
      notAfter := hclosed.notAfter
      notAfterColons := hclosed.notAfterColons }
  · intro h
    have hsingle : SinglySpaced text := ⟨h.last, h.spaces, h.single⟩
    have hclosed : ClosedAfter false false text :=
      ⟨by simp, by simp, h.notAfter, h.notAfterColons⟩
    exact ⟨⟨h.first, hsingle⟩, (closeBefore_eq_iff hsingle).mpr h.notBefore,
      (closeAfterFrom_eq_iff hsingle.spaces false false).mpr hclosed⟩

/-! ## Plain text -/

theorem plainChars_escape (text : List Char) :
    plainChars (escape text) = .ok (closeUp text) := by
  rw [plainChars, blankTags_escape, resolveReferences_escape]
  rfl

theorem plainText_escape (text : String) :
    plainText (String.ofList (escape text.toList)) =
      .ok (String.ofList (closeUp text.toList)) := by
  rw [plainText, String.toList_ofList, plainChars_escape]
  rfl

theorem exists_plainText {markup : String}
    (h : ∃ content, resolveReferences (blankTags markup.toList) = .ok content) :
    ∃ text, plainText markup = .ok text := by
  obtain ⟨content, hcontent⟩ := h
  refine ⟨String.ofList (closeUp content), ?_⟩
  rw [plainText, plainChars, hcontent]
  rfl

theorem ReferencesReadable.exists_plainText {markup : String}
    (h : ReferencesReadable markup.toList) : ∃ text,
      plainText markup = .ok text :=
  Markup.exists_plainText h.exists_resolveReferences

end TraitIndex.Markup
