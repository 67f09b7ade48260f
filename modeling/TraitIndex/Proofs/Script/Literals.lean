import TraitIndex.Proofs.Json.Content
import TraitIndex.Proofs.Json.Grammar
import TraitIndex.Proofs.Script.Lines

/-!
# Literals of scripts

A literal that JSON reads as a string is quoted in the sense of scripts, so a
line may be written with any such literal.  Whatever a reader of scripts finds,
it finds literals that begin as strings and lists do.
-/

namespace TraitIndex.Script

/-! ## Strings that are read -/

/-- The part of a text that an escape sequence uses, with its backslash. -/
structure Spends (text : List Char) (used : Nat) (spent after : List Char) :
    Prop where
  text_eq : text = spent ++ after
  length_eq : spent.length = used
  quoted : Quoted ('\\' :: spent)

theorem exists_spends_of_unicodeEscape {text : List Char} {escaped : Char}
    {used : Nat} (h : Json.unicodeEscape ('u' :: text) = .ok (escaped, used)) :
    ∃ spent after, Spends ('u' :: text) used spent after := by
  unfold Json.unicodeEscape at h
  split at h
  · next a b c d next after heq =>
      obtain ⟨-, rfl⟩ := List.cons.inj heq
      split at h
      · cases h
      · next high hhigh =>
          have hfirst := quoted_hexQuad hhigh
          split at h
          · next e f g i _ _ _ =>
              split at h
              · cases h
              · next low hlow =>
                  split at h
                  · obtain ⟨-, rfl⟩ := Prod.mk.inj (Except.ok.inj h)
                    exact ⟨['u', a, b, c, d, '\\', 'u', e, f, g, i], _,
                      rfl, rfl, hfirst.append (quoted_hexQuad hlow)⟩
                  · obtain ⟨-, rfl⟩ := Prod.mk.inj (Except.ok.inj h)
                    exact ⟨['u', a, b, c, d], _, rfl, rfl, hfirst⟩
          · obtain ⟨-, rfl⟩ := Prod.mk.inj (Except.ok.inj h)
            exact ⟨['u', a, b, c, d], _, rfl, rfl, hfirst⟩
  · cases h

theorem exists_spends_of_escapeSequence {opening backslash text : List Char}
    {escaped : Char} {used : Nat}
    (h : Json.escapeSequence opening backslash text = .ok (escaped, used)) :
    ∃ spent after, Spends text used spent after := by
  cases text with
  | nil => cases h
  | cons c rest =>
      rw [Json.escapeSequence] at h
      split at h
      · next hc =>
          subst hc
          exact exists_spends_of_unicodeEscape h
      · split at h
        · next simple hsimple =>
            obtain ⟨-, rfl⟩ := Prod.mk.inj (Except.ok.inj h)
            have hline : c ≠ '\n' := by
              rintro rfl
              cases hsimple
            exact ⟨[c], rest, rfl, rfl, .escaped hline .nil⟩
        · cases h

theorem exists_of_consChar {c : Char} {result : Json.Read (List Char)}
    {chars rest : List Char} (h : Json.consChar c result = .ok (chars, rest)) :
    ∃ more, result = .ok (more, rest) := by
  cases result with
  | error stop => cases h
  | ok found =>
      obtain ⟨-, rfl⟩ := Prod.mk.inj (Except.ok.inj h)
      exact ⟨found.1, rfl⟩

/-- What is read as a string ends at a quotation mark, and what stands before it
is quoted. -/
theorem exists_quoted_of_stringBody {opening text chars rest : List Char}
    (h : Json.stringBody opening 0 text = .ok (chars, rest)) :
    ∃ inner, text = inner ++ '"' :: rest ∧ Quoted inner := by
  -- An escape sequence takes several characters at once, hence the induction on
  -- the length.
  induction hlength : text.length using Nat.strong_induction_on
    generalizing text chars with
  | _ length ih =>
      subst hlength
      cases text with
      | nil => cases h
      | cons c tail =>
          rw [Json.stringBody] at h
          split_ifs at h with hquote hbackslash hcontrol
          · obtain ⟨-, rfl⟩ := Prod.mk.inj (Except.ok.inj h)
            exact ⟨[], by rw [hquote]; rfl, .nil⟩
          · split at h
            · cases h
            · next escaped used hescape =>
                obtain ⟨spent, after, rfl, rfl, hspent⟩ :=
                  exists_spends_of_escapeSequence hescape
                obtain ⟨more, hmore⟩ := exists_of_consChar h
                rw [Json.stringBody_skip] at hmore
                have hshorter :
                    after.length < (c :: (spent ++ after)).length := by
                  rw [List.length_cons, List.length_append]
                  omega
                obtain ⟨inner, rfl, hinner⟩ := ih _ hshorter hmore rfl
                exact ⟨'\\' :: spent ++ inner, by simp [hbackslash],
                  hspent.append hinner⟩
          · have hline : c ≠ '\n' := by
              rintro rfl
              exact hcontrol (by decide)
            obtain ⟨more, hmore⟩ := exists_of_consChar h
            obtain ⟨inner, rfl, hinner⟩ := ih _ (Nat.lt_succ_self _) hmore rfl
            exact ⟨c :: inner, rfl, .plain hquote hbackslash hline hinner⟩

/-! ## Written literals -/

/-- A text on one line that writes a value in JSON, from its first mark to its
last. -/
structure Writes (first last : Char) (literal : List Char) (content : Value) :
    Prop where
  head_eq : literal.head? = some first
  last_eq : literal.getLast? = some last
  oneLine : '\n' ∉ literal
  written : Json.Written literal content

/-- An assignment that is written for a crate and its descriptors. -/
structure WrittenFor (assignment : Assignment) (field : String × List Value) :
    Prop where
  crate : Writes '"' '"' assignment.crate (.text field.1)
  descriptors : Writes '[' ']' assignment.descriptors (.list field.2)

theorem eq_nil_of_skipSpace {text : List Char}
    (hspace : Json.skipSpace text = [])
    (hlast : ∀ last, text.getLast? = some last → Json.isSpace last = false) :
    text = [] := by
  by_contra hne
  have hmem := List.dropWhile_eq_nil_iff.mp hspace _ (List.getLast_mem hne)
  rw [hlast _ (List.getLast?_eq_some_getLast hne)] at hmem
  cases hmem

theorem Writes.exists_quoted {literal : List Char} {content : Value}
    (h : Writes '"' '"' literal content) :
    ∃ inner, literal = '"' :: inner ++ ['"'] ∧ Quoted inner := by
  obtain ⟨text, rfl⟩ := List.head?_eq_some_iff.mp h.head_eq
  obtain ⟨chars, rest, hbody, hspace, -⟩ :=
    Json.exists_string_of_decodeChars h.written.decodeChars_eq
  obtain ⟨inner, rfl, hinner⟩ := exists_quoted_of_stringBody hbody
  have hrest : rest = [] := by
    refine eq_nil_of_skipSpace hspace fun last hlast => ?_
    have hquote := h.last_eq
    rw [← List.cons_append, List.getLast?_append, List.getLast?_cons, hlast]
      at hquote
    obtain rfl := Option.some.inj hquote
    decide
  exact ⟨inner, by rw [hrest]; rfl, hinner⟩

theorem Writes.exists_bracketed {literal : List Char} {content : Value}
    (h : Writes '[' ']' literal content) :
    ∃ inner, literal = '[' :: inner ++ [']'] ∧ '\n' ∉ inner := by
  obtain ⟨text, rfl⟩ := List.head?_eq_some_iff.mp h.head_eq
  obtain ⟨inner, htext⟩ := List.getLast?_eq_some_iff.mp h.last_eq
  cases inner with
  | nil => cases htext
  | cons bracket inner =>
      obtain ⟨rfl, rfl⟩ := List.cons.inj htext
      exact ⟨inner, rfl, fun hmem => h.oneLine (by simp [hmem])⟩

theorem WrittenFor.onLine {assignment : Assignment}
    {field : String × List Value} (h : WrittenFor assignment field) :
    assignment.OnLine :=
  ⟨h.crate.exists_quoted, h.descriptors.exists_bracketed⟩

/-! ## Literals that are found -/

/-- How the literals of an assignment begin. -/
structure Assignment.Opens (assignment : Assignment) : Prop where
  crate : ∃ rest, assignment.crate = '"' :: rest
  descriptors : ∃ rest, assignment.descriptors = '[' :: rest

theorem trimEnd_prefix (line : List Char) : trimEnd line <+: line := by
  have hsuffix := List.dropWhile_suffix Text.isBlank (l := line.reverse)
  simpa [trimEnd] using List.reverse_prefix.mpr hsuffix

theorem exists_of_listOfLine? {line list : List Char}
    (h : listOfLine? line = some list) :
    ∃ rest, list = '[' :: rest := by
  unfold listOfLine? at h
  split at h
  · next tail inner htrim =>
      have hprefix := trimEnd_prefix ('[' :: tail)
      rw [← List.reverse_reverse (trimEnd _), htrim] at hprefix
      split_ifs at h with hempty
      obtain rfl := Option.some.inj h
      cases hinner : inner.reverse with
      | nil => simp [List.reverse_eq_nil_iff.mp hinner] at hempty
      | cons first more =>
          simp only [List.reverse_cons, hinner, List.cons_append] at hprefix ⊢
          obtain ⟨rfl, -⟩ := List.cons_prefix_cons.mp hprefix
          exact ⟨_, rfl⟩
  · cases h

theorem opens_of_assignmentAt? {text rest : List Char} {assignment : Assignment}
    (h : assignmentAt? text = some (assignment, rest)) : assignment.Opens := by
  unfold assignmentAt? at h
  simp only [Option.bind_eq_bind, Option.bind_eq_some_iff] at h
  obtain ⟨_, -, literal, -, _, -, _, -, list, hlist, h⟩ := h
  obtain ⟨rfl, -⟩ := Prod.mk.inj (Option.some.inj h)
  exact ⟨⟨literal.1, rfl⟩, exists_of_listOfLine? hlist⟩

theorem opens_of_mem_assignmentsFrom {text : List Char} {atStart : Bool}
    {skip : Nat} {assignment : Assignment}
    (h : assignment ∈ assignmentsFrom atStart skip text) :
    assignment.Opens := by
  induction text generalizing atStart skip with
  | nil =>
      rw [assignmentsFrom] at h
      exact absurd h List.not_mem_nil
  | cons c rest ih =>
      cases skip with
      | succ skip =>
          rw [assignmentsFrom] at h
          exact ih h
      | zero =>
          rw [assignmentsFrom] at h
          split at h
          · next found after hfound =>
              obtain rfl | hlater := List.mem_cons.mp h
              · split_ifs at hfound
                exact opens_of_assignmentAt? hfound
              · exact ih hlater
          · exact ih h

theorem opens_of_mem_assignments {text : List Char} {assignment : Assignment}
    (h : assignment ∈ assignments text) : assignment.Opens :=
  opens_of_mem_assignmentsFrom h

namespace Assignment.Opens

variable {assignment : Assignment} (h : assignment.Opens) {content : Value}

include h

theorem crate_text (hread : Json.decodeChars assignment.crate = .ok content) :
    ∃ name, content = .text name := by
  obtain ⟨rest, hcrate⟩ := h.crate
  rw [hcrate] at hread
  obtain ⟨chars, _, -, -, rfl⟩ := Json.exists_string_of_decodeChars hread
  exact ⟨_, rfl⟩

theorem descriptors_list
    (hread : Json.decodeChars assignment.descriptors = .ok content) :
    ∃ items, content = .list items := by
  obtain ⟨rest, hdescriptors⟩ := h.descriptors
  rw [hdescriptors] at hread
  exact Json.exists_list_of_decodeChars hread

end Assignment.Opens

end TraitIndex.Script
