import TraitIndex.Proofs.Json.Strings
import TraitIndex.Proofs.Script.Records

/-!
# Scripts that can be encoded

A script adds nothing to the texts of a fragment that could not be encoded.  So
where there is no lone surrogate in the fragment there is none in its script.
-/

namespace TraitIndex

/-! ## Characters -/

namespace Text

/-- There is no lone surrogate among some characters. -/
def NoLone (text : List Char) : Prop :=
  ∀ c ∈ text, isLoneSurrogate c = false

theorem isEncodable_iff {text : String} :
    isEncodable text = true ↔ NoLone text.toList := by
  simp [isEncodable, NoLone]

namespace NoLone

variable {text other : List Char}

theorem nil : NoLone [] := fun _ h => absurd h List.not_mem_nil

theorem append (h : NoLone text) (hother : NoLone other) :
    NoLone (text ++ other) :=
  fun c hc => (List.mem_append.mp hc).elim (h c) (hother c)

theorem cons {c : Char} (hc : isLoneSurrogate c = false) (h : NoLone text) :
    NoLone (c :: text) :=
  List.forall_mem_cons.mpr ⟨hc, h⟩

theorem of_all (h : text.all (fun c => !isLoneSurrogate c) = true) :
    NoLone text := by
  simpa [NoLone] using h

theorem flatMap {f : Char → List Char} (h : NoLone text)
    (hf : ∀ c, isLoneSurrogate c = false → NoLone (f c)) :
    NoLone (text.flatMap f) := by
  intro d hd
  obtain ⟨c, hc, hd⟩ := List.mem_flatMap.mp hd
  exact hf c (h c hc) d hd

theorem intercalate {separator : List Char} {parts : List (List Char)}
    (hseparator : NoLone separator) (h : ∀ part ∈ parts, NoLone part) :
    NoLone (separator.intercalate parts) := by
  induction parts with
  | nil => exact nil
  | cons part rest ih =>
      obtain ⟨hpart, hrest⟩ := List.forall_mem_cons.mp h
      cases rest with
      | nil => rwa [List.intercalate_singleton]
      | cons next rest =>
          rw [List.intercalate_cons_cons]
          exact (hpart.append hseparator).append (ih hrest)

theorem lastSegment {path : String} (h : NoLone path.toList) :
    NoLone (Text.lastSegment path).toList := by
  have hafter (text after : List Char)
      (hafter : afterLast? [':', ':'] text = some after) :
      after ⊆ text := by
    induction text with
    | nil =>
        rw [afterLast?, stripInitial?_eq_some_iff] at hafter
        exact hafter ▸ List.subset_append_right _ _
    | cons c text ih =>
        rw [afterLast?] at hafter
        split at hafter
        · next found hfound =>
            obtain rfl := Option.some.inj hafter
            exact List.subset_cons_of_subset _ (ih hfound)
        · rw [stripInitial?_eq_some_iff] at hafter
          exact hafter ▸ List.subset_append_right _ _
  unfold Text.lastSegment
  split
  · next after hfound =>
      rw [String.toList_ofList]
      exact fun c hc => h c (hafter _ _ hfound hc)
  · exact h

end NoLone

end Text

open Text (NoLone isLoneSurrogate isEncodable)

/-! ## Strings -/

namespace Json

theorem noLone_codeUnitEscape {code : Nat} (h : code < 0x10000) :
    NoLone (codeUnitEscape code) := by
  have hdigit : ∀ digit < 16, isLoneSurrogate (Nat.digitChar digit) =
      false := by decide
  have hlead : code / 16 / 16 / 16 < 16 := by omega
  rw [codeUnitEscape, Text.hexDigits_succ (by decide),
    Text.hexDigits_succ (by decide), Text.hexDigits_succ (by decide),
    Text.hexDigits_one hlead]
  have hrest (number : Nat) : NoLone [Nat.digitChar (number % 16)] :=
    .cons (hdigit _ (Nat.mod_lt _ (by decide))) .nil
  exact .cons (by decide) (.cons (by decide)
    ((((NoLone.cons (hdigit _ hlead) .nil).append (hrest _)).append
      (hrest _)).append (hrest _)))

theorem noLone_of_requiredEscape? {c : Char} {escape : List Char}
    (h : requiredEscape? c = some escape) : NoLone escape := by
  obtain ⟨letter, -, -, hletter, rfl⟩ | ⟨hcontrol, rfl⟩ :=
    requiredEscape?_eq_some h
  · have hshort : isLoneSurrogate letter = false := by
      unfold simpleEscape? at hletter
      split at hletter <;> first | decide | cases hletter
    exact .cons (by decide) (.cons hshort .nil)
  · exact noLone_codeUnitEscape (by omega)

theorem noLone_stringChar (c : Char) (h : isLoneSurrogate c = false) :
    NoLone (stringChar c) := by
  unfold stringChar
  cases hescape : requiredEscape? c with
  | none => exact .cons h .nil
  | some escape => exact noLone_of_requiredEscape? hescape

theorem noLone_encodeString {text : String} (h : NoLone text.toList) :
    NoLone (encodeString text) :=
  (NoLone.cons (by decide) (h.flatMap noLone_stringChar)).append
  (.of_all (by decide))

/-- A string in ASCII can always be encoded. -/
theorem noLone_encodeAsciiString (text : String) :
    NoLone (encodeAsciiString text) := by
  have hchar (c : Char) : NoLone (asciiStringChar c) := by
    have hvalid : c.toNat < 0xD800 ∨ (0xDFFF < c.toNat ∧ c.toNat < 0x110000) :=
      c.valid
    cases hescape : requiredEscape? c with
    | some escape =>
        simp only [asciiStringChar, hescape]
        exact noLone_of_requiredEscape? hescape
    | none =>
        simp only [asciiStringChar, hescape]
        split
        · next hascii =>
            refine .cons ?_ .nil
            simp only [isLoneSurrogate, Bool.and_eq_false_iff,
              decide_eq_false_iff_not]
            omega
        split
        · next hcode => exact noLone_codeUnitEscape hcode
        · exact (noLone_codeUnitEscape (by omega)).append
            (noLone_codeUnitEscape (by omega))
  have hall : NoLone (text.toList.flatMap asciiStringChar) := by
    intro d hd
    obtain ⟨c, -, hd⟩ := List.mem_flatMap.mp hd
    exact hchar c d hd
  exact (NoLone.cons (by decide) hall).append (.of_all (by decide))

theorem noLone_separated {parts : List (List Char)}
    (h : ∀ part ∈ parts, NoLone part) :
    NoLone (separated parts) :=
  .intercalate (.of_all (by decide)) h

theorem noLone_encode_list {items : List Value}
    (h : ∀ item ∈ items, NoLone (encode item)) :
    NoLone (encode (.list items)) := by
  rw [encode, encodeItems_eq_map]
  exact (NoLone.cons (by decide)
    (noLone_separated (List.forall_mem_map.mpr h))).append
    (.of_all (by decide))

end Json

/-! ## Records and fragments -/

namespace TextRecord

/-- Every text of a record can be encoded. -/
structure IsEncodable (given : TextRecord) : Prop where
  traitName : isEncodable given.traitName = true
  implementingType : isEncodable given.implementingType = true
  owningCrate : isEncodable given.owningCrate = true
  constraintText : isEncodable given.constraintText = true
  rendered : isEncodable given.rendered = true

variable {given : TextRecord} (h : given.IsEncodable)

include h

theorem noLone_plain : NoLone given.plain.toList := by
  unfold plain
  split
  · simp only [String.toList_append]
    exact (((NoLone.of_all (by decide)).append
      (NoLone.lastSegment (Text.isEncodable_iff.mp h.traitName))).append
        (.of_all (by decide))).append
          (NoLone.lastSegment (Text.isEncodable_iff.mp h.implementingType))
  · exact Text.isEncodable_iff.mp h.constraintText

theorem noLone_markup : NoLone given.markup.toList := by
  unfold markup
  split
  · rw [String.toList_ofList]
    refine (noLone_plain h).flatMap fun c hc => ?_
    unfold Markup.escapeChar
    split_ifs
    · exact .of_all (by decide)
    · exact .of_all (by decide)
    · exact .of_all (by decide)
    · exact .cons hc .nil
  · exact Text.isEncodable_iff.mp h.rendered

theorem noLone_descriptor : NoLone (Json.encode given.descriptor) := by
  have htype : NoLone (Json.encode (.list [.text given.implementingType])) :=
    Json.noLone_encode_list (List.forall_mem_singleton.mpr
      (Json.noLone_encodeString (Text.isEncodable_iff.mp h.implementingType)))
  have hsynthetic : NoLone (Json.encode (.bool given.synthetic)) := by
    cases given.synthetic <;> exact .of_all (by decide)
  have hfields : ∀ field ∈ given.fields,
      NoLone field.1.toList ∧ NoLone field.2.1 := by
    simp only [fields, List.forall_mem_cons, List.not_mem_nil, false_imp_iff,
      implies_true, and_true]
    exact ⟨⟨.of_all (by decide), Json.noLone_encodeString (noLone_markup h)⟩,
      ⟨.of_all (by decide), hsynthetic⟩, .of_all (by decide), htype⟩
  rw [encode_descriptor]
  refine (NoLone.cons (by decide) (Json.noLone_separated ?_)).append
    (.of_all (by decide))
  refine List.forall_mem_map.mpr fun field hfield => ?_
  exact (Json.noLone_encodeString (hfields field hfield).1).append
    (.cons (by decide) (hfields field hfield).2)

end TextRecord

def Fragment.IsEncodable (fragment : Fragment) : Prop :=
  ∃ crates source, fragment = Fragment.ofTexts crates source ∧
    ∀ field ∈ crates, isEncodable field.1 = true ∧ ∀ given ∈ field.2,
      given.IsEncodable

namespace Script

theorem noLone_assignmentLine (crate : String) {records : List TextRecord}
    (h : ∀ given ∈ records, given.IsEncodable) :
    NoLone (assignmentLine crate (records.map TextRecord.descriptor)) := by
  have hlist : NoLone
      (Json.encode (.list (records.map TextRecord.descriptor))) :=
    Json.noLone_encode_list (List.forall_mem_map.mpr fun given hgiven =>
      TextRecord.noLone_descriptor (h given hgiven))
  exact ((((NoLone.of_all (by decide)).append
    (Json.noLone_encodeAsciiString crate)).append
    (.of_all (by decide))).append hlist).append (.of_all (by decide))

/-- The script of a fragment that can be encoded can be encoded. -/
theorem isEncodable_write {fragment : Fragment} {script : String}
    (h : fragment.IsEncodable) (hscript : write fragment = .ok script) :
    isEncodable script = true := by
  obtain ⟨crates, source, rfl, hcrates⟩ := h
  rw [write_ofTexts] at hscript
  obtain rfl := Except.ok.inj hscript
  rw [Text.isEncodable_iff, String.toList_ofList, scriptText]
  refine .intercalate (.of_all (by decide)) fun line hline => ?_
  rw [List.mem_append, List.mem_cons, List.mem_singleton, described,
    List.map_map, List.mem_map] at hline
  obtain (hheader | ⟨field, hfield, rfl⟩) | hfooter := hline
  · rw [hheader]
    exact .of_all (by decide)
  · exact noLone_assignmentLine field.1 (hcrates field hfield).2
  · rw [hfooter]
    exact .of_all (by decide +kernel)

end Script

end TraitIndex
