import Mathlib.Data.List.Basic
import Mathlib.Data.List.TakeWhile
import TraitIndex.Markup.Plain

/-!
# References and escaped text

Escaped text has no tags and no references but those that escaping made, so
resolving its references gives the text back.  Markup can be resolved when its
numeric references are short enough to be read.
-/

namespace TraitIndex.Markup

/-! ## Escaped text -/

theorem blankTagsFrom_append {text : List Char} (h : '<' ∉ text)
    (rest : List Char) :
    blankTagsFrom none (text ++ rest) = text ++ blankTagsFrom none rest := by
  induction text with
  | nil => rfl
  | cons c text ih =>
      simp only [List.mem_cons, not_or] at h
      simp only [List.cons_append, blankTagsFrom, if_neg (Ne.symm h.1), ih h.2]

theorem blankTagsFrom_none {text : List Char} (h : '<' ∉ text) :
    blankTagsFrom none text = text := by
  simpa [blankTagsFrom] using blankTagsFrom_append h []

theorem lessThan_not_mem_escape (text : List Char) : '<' ∉ escape text := by
  intro h
  obtain ⟨c, -, hc⟩ := List.mem_flatMap.mp h
  unfold escapeChar at hc
  split_ifs at hc with hamp hless hgreater
  · revert hc
    decide
  · revert hc
    decide
  · revert hc
    decide
  · exact hless (List.mem_singleton.mp hc).symm

theorem escape_ne_nil {text : List Char} (h : text ≠ []) :
    escape text ≠ [] := by
  obtain ⟨c, rest, rfl⟩ := List.exists_cons_of_ne_nil h
  intro hnil
  have hc := List.flatMap_eq_nil_iff.mp hnil c List.mem_cons_self
  unfold escapeChar at hc
  split_ifs at hc
  all_goals cases hc

theorem blankTags_escape (text : List Char) :
    blankTags (escape text) = escape text :=
  blankTagsFrom_none (lessThan_not_mem_escape text)

theorem resolveFrom_skip (used tail : List Char) :
    resolveFrom used.length (used ++ tail) = resolveFrom 0 tail := by
  induction used with
  | nil => rfl
  | cons c used ih => exact ih

theorem resolveFrom_plain {c : Char} (h : c ≠ '&') (tail : List Char) :
    resolveFrom 0 (c :: tail) = (resolveFrom 0 tail).map (c :: ·) := by
  rw [resolveFrom, if_neg h]
  cases resolveFrom 0 tail <;> rfl

theorem resolveFrom_none {rest : List Char} (h : reference? rest = .ok none) :
    resolveFrom 0 ('&' :: rest) = (resolveFrom 0 rest).map ('&' :: ·) := by
  rw [resolveFrom, if_pos rfl, h]
  change (do return '&' :: (← resolveFrom 0 rest)) = _
  cases resolveFrom 0 rest <;> rfl

theorem resolveFrom_some {rest content : List Char} {used : Nat}
    (h : reference? rest = .ok (some (content, used))) :
    resolveFrom 0 ('&' :: rest) =
      (resolveFrom used rest).map (content ++ ·) := by
  rw [resolveFrom, if_pos rfl, h]
  change (do return content ++ (← resolveFrom used rest)) = _
  cases resolveFrom used rest <;> rfl

/-- A name with a semicolon behind it is a reference to the text it stands
for. -/
theorem reference?_name {name content : List Char}
    (hname : name.all isNameChar = true) (hlength : name.length ≤ 32)
    (hcontent : textOfName? name = some content) (tail : List Char) :
    reference? (name ++ ';' :: tail) =
      .ok (some (content, name.length + 1)) := by
  have hchars := List.all_eq_true.mp hname
  have hword : ((name ++ ';' :: tail).takeWhile isNameChar).take 32 = name := by
    have hsemicolon : isNameChar ';' = false := by decide
    rw [List.takeWhile_append_of_pos hchars, List.takeWhile_cons, hsemicolon]
    simp [List.take_of_length_le hlength]
  have hnamed : namedReference? (name ++ ';' :: tail) =
      some (content, name.length + 1) := by
    simp only [namedReference?, hword, List.drop_left, semicolonLength, if_true,
      hcontent]
    rfl
  rw [← hnamed]
  cases name with
  | nil => cases hcontent
  | cons c name =>
      have hc : c ≠ '#' := fun heq => by
        have hnumber := hchars c List.mem_cons_self
        rw [heq] at hnumber
        exact absurd hnumber (by decide)
      unfold reference?
      split
      · next heq => exact absurd (List.cons.inj heq).1 hc
      · rfl

theorem resolveFrom_name {name content : List Char}
    (hname : name.all isNameChar = true) (hlength : name.length ≤ 32)
    (hcontent : textOfName? name = some content) (tail : List Char) :
    resolveFrom 0 ('&' :: (name ++ ';' :: tail)) =
      (resolveFrom 0 tail).map (content ++ ·) := by
  have hskip := resolveFrom_skip (name ++ [';']) tail
  simp only [List.length_append, List.length_singleton, List.append_assoc,
    List.singleton_append] at hskip
  rw [resolveFrom_some (reference?_name hname hlength hcontent tail), hskip]

theorem resolveFrom_escapeChar (c : Char) (tail : List Char) :
    resolveFrom 0 (escapeChar c ++ tail) =
      (resolveFrom 0 tail).map (c :: ·) := by
  unfold escapeChar
  split_ifs with hamp hless hgreater
  · rw [hamp]
    have hcontent : textOfName? ['a', 'm', 'p'] = some ['&'] := by
      decide +kernel
    exact resolveFrom_name (by decide) (by decide) hcontent tail
  · rw [hless]
    have hcontent : textOfName? ['l', 't'] = some ['<'] := by decide +kernel
    exact resolveFrom_name (by decide) (by decide) hcontent tail
  · rw [hgreater]
    have hcontent : textOfName? ['g', 't'] = some ['>'] := by decide +kernel
    exact resolveFrom_name (by decide) (by decide) hcontent tail
  · exact resolveFrom_plain hamp tail

theorem resolveReferences_escape (text : List Char) :
    resolveReferences (escape text) = .ok text := by
  unfold resolveReferences escape
  induction text with
  | nil => rfl
  | cons c rest ih =>
      rw [List.flatMap_cons, resolveFrom_escapeChar, ih]
      rfl

/-! ## Numeric references -/

/-- Outside of tags no numeric reference has more digits than are read. -/
def ReferencesReadable (markup : List Char) : Prop :=
  ∀ digits : List Char, (∀ c ∈ digits, Text.isAsciiDigit c = true) →
    '&' :: '#' :: digits <:+: blankTags markup →
      digits.length ≤ Value.digitLimit

theorem referencesReadable_of_length_le {markup : List Char}
    (h : (blankTags markup).length ≤ Value.digitLimit) :
    ReferencesReadable markup := by
  intro digits _ hoccurs
  have hlength := hoccurs.length_le
  simp only [List.length_cons] at hlength
  omega

theorem exists_numericReference? {text : List Char}
    (h : (text.takeWhile Text.isAsciiDigit).length ≤ Value.digitLimit) :
    ∃ found, numericReference? text = .ok found := by
  have hlength : ¬Value.digitLimit <
      (text.takeWhile Text.isAsciiDigit).length := Nat.not_lt.mpr h
  unfold numericReference?
  simp only [hlength, if_false]
  split
  · exact ⟨_, rfl⟩
  split
  · exact ⟨_, rfl⟩
  split
  · exact ⟨_, rfl⟩
  · exact ⟨_, rfl⟩

theorem exists_reference? {text : List Char}
    (h : ∀ digits : List Char, (∀ c ∈ digits, Text.isAsciiDigit c = true) →
      '#' :: digits <+: text → digits.length ≤ Value.digitLimit) :
    ∃ found, reference? text = .ok found := by
  unfold reference?
  split
  · next rest =>
      have hlength : (rest.takeWhile Text.isAsciiDigit).length ≤
          Value.digitLimit := by
        apply h
        · intro c hc
          exact List.mem_takeWhile_imp hc
        · exact List.cons_prefix_cons.mpr ⟨rfl, List.takeWhile_prefix _⟩
      obtain ⟨found, hfound⟩ := exists_numericReference? hlength
      exact ⟨found.map fun result => (result.1, result.2 + 1),
        by rw [hfound]; rfl⟩
  · exact ⟨_, rfl⟩

theorem exists_resolveFrom {text : List Char}
    (h : ∀ digits : List Char, (∀ c ∈ digits, Text.isAsciiDigit c = true) →
      '&' :: '#' :: digits <:+: text → digits.length ≤ Value.digitLimit)
        (skip : Nat) :
    ∃ content, resolveFrom skip text = .ok content := by
  induction text generalizing skip with
  | nil => exact ⟨[], by cases skip <;> rfl⟩
  | cons c rest ih =>
      have ih := ih fun digits hdigits hoccurs => h digits hdigits
        (List.infix_cons hoccurs)
      cases skip with
      | succ skip => exact ih skip
      | zero =>
          by_cases hc : c = '&'
          · subst hc
            have hreference : ∃ found, reference? rest = .ok found := by
              apply exists_reference?
              intro digits hdigits hstart
              exact h digits hdigits
                (List.cons_prefix_cons.mpr ⟨rfl, hstart⟩).isInfix
            obtain ⟨found, hfound⟩ := hreference
            cases found with
            | none =>
                obtain ⟨content, hcontent⟩ := ih 0
                exact ⟨'&' :: content,
                  by rw [resolveFrom_none hfound, hcontent]; rfl⟩
            | some result =>
                obtain ⟨content, hcontent⟩ := ih result.2
                exact ⟨result.1 ++ content,
                  by rw [resolveFrom_some hfound, hcontent]; rfl⟩
          · obtain ⟨content, hcontent⟩ := ih 0
            exact ⟨c :: content, by rw [resolveFrom_plain hc, hcontent]; rfl⟩

theorem ReferencesReadable.exists_resolveReferences {markup : List Char}
    (h : ReferencesReadable markup) :
    ∃ content, resolveReferences (blankTags markup) = .ok content :=
  exists_resolveFrom h 0

end TraitIndex.Markup
