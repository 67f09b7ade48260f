import TraitIndex.Proofs.Bundle.Contents
import TraitIndex.Proofs.Sidebar.Reading
import TraitIndex.Proofs.Structured.Descriptors

/-!
# Keys that are written alike

A mapping may have keys of any kind, and a crate is known by the text of its
key.  Where two keys have the same text, the descriptors under the later one
take the place of those under the earlier one.  All other descriptors become
records, one for each, and merging accounts for every record.
-/

namespace TraitIndex

/-! ## Assignments that are taken back -/

namespace Assoc

variable {κ ν : Type} [DecidableEq κ]

/-- The assignments whose keys are not assigned to again. -/
def lasting : List (κ × ν) → List (κ × ν)
  | [] => []
  | field :: later =>
      if field.1 ∈ later.map (·.1) then lasting later
      else field :: lasting later

/-- The assignments that a later one to the same key takes back. -/
def overwritten : List (κ × ν) → List (κ × ν)
  | [] => []
  | field :: later =>
      if field.1 ∈ later.map (·.1) then field :: overwritten later
      else overwritten later

theorem lasting_append_overwritten_perm (fields : List (κ × ν)) :
    (lasting fields ++ overwritten fields).Perm fields := by
  induction fields with
  | nil => exact .nil
  | cons field later ih =>
      rw [lasting, overwritten]
      split
      · exact List.perm_middle.trans (ih.cons field)
      · exact ih.cons field

theorem overwritten_of_nodup {fields : List (κ × ν)}
    (h : (fields.map (·.1)).Nodup) :
    overwritten fields = [] := by
  induction fields with
  | nil => rfl
  | cons field later ih =>
      obtain ⟨hnew, hlater⟩ := List.nodup_cons.mp h
      rw [overwritten, if_neg hnew, ih hlater]

theorem lasting_map {μ : Type} (f : ν → μ) (fields : List (κ × ν)) :
    lasting (fields.map fun field => (field.1, f field.2)) =
      (lasting fields).map fun field => (field.1, f field.2) := by
  induction fields with
  | nil => rfl
  | cons field later ih =>
      have hkeys : (later.map fun field => (field.1, f field.2)).map (·.1) =
          later.map (·.1) :=
        List.map_map
      rw [List.map_cons, lasting, lasting, hkeys, ih]
      split <;> rfl

theorem lasting_concat (fields : List (κ × ν)) (last : κ × ν) :
    lasting (fields ++ [last]) = (lasting fields).filter (·.1 ≠ last.1) ++
      [last] := by
  induction fields with
  | nil => rfl
  | cons field later ih =>
      rw [List.cons_append, lasting, lasting, ih]
      by_cases hlast : field.1 = last.1
      · by_cases hlater : field.1 ∈ later.map (·.1) <;>
          simp [hlast, hlast ▸ hlater]
      · by_cases hlater : field.1 ∈ later.map (·.1)
        · simp [hlater]
        · simp [hlast, hlater]

theorem insert_perm {key : κ} {fields : Assoc κ ν} (h : fields.keys.Nodup)
    (value : ν) :
    (insert key value fields).Perm
      (fields.filter (·.1 ≠ key) ++ [(key, value)]) := by
  induction fields with
  | nil => exact .refl _
  | cons field rest ih =>
      obtain ⟨hnew, hrest⟩ : field.1 ∉ rest.map (·.1) ∧ (keys rest).Nodup :=
        List.nodup_cons.mp h
      rw [insert]
      by_cases hkey : field.1 = key
      · have hkept : rest.filter (·.1 ≠ key) = rest := by
          rw [List.filter_eq_self]
          intro other hother
          have hne : other.1 ≠ key := fun heq =>
            hnew (hkey.trans heq.symm ▸ List.mem_map_of_mem hother)
          exact decide_eq_true hne
        rw [if_pos hkey, List.filter_cons_of_neg (by simp [hkey]), hkept]
        exact (List.perm_append_singleton _ _).symm
      · rw [if_neg hkey, List.filter_cons_of_pos (by simp [hkey])]
        exact (ih hrest).cons field

theorem ofList_perm_lasting (fields : List (κ × ν)) :
    (ofList fields).Perm (lasting fields) := by
  induction fields using List.reverseRecOn with
  | nil => exact .nil
  | append_singleton fields last ih =>
      rw [ofList_concat, lasting_concat]
      exact (insert_perm (nodup_keys_ofList fields) last.2).trans
        ((ih.filter _).append_right _)

end Assoc

namespace Structured

/-- The fields of a mapping under the texts of their keys. -/
def written (fields : List (Value × Value)) : List (String × Value) :=
  fields.map fun field => (field.1.toText, field.2)

theorem map_textField_written {fields : List (Value × Value)}
    (h : ∀ field ∈ fields, field.1.isText = true) :
    (written fields).map Value.textField = fields := by
  rw [written, List.map_map]
  refine List.map_congr_left (g := id) (fun field hfield => ?_) |>.trans
    (List.map_id _)
  obtain ⟨name, hname⟩ := Value.exists_of_isText (h field hfield)
  rw [Function.comp_apply, Value.textField, hname]
  exact Prod.ext hname.symm rfl

theorem written_textField (members : List (String × Value)) :
    written (members.map Value.textField) = members := by
  rw [written, List.map_map]
  exact List.map_id _

end Structured

/-! ## Objects of JSON -/

namespace Json

theorem numberValue_ne_mapping {negative : Bool} {whole : List Char}
    {fraction : Option (List Char)} {exponent : Option (Bool × List Char)}
    (fields : List (Value × Value)) :
    numberValue negative whole fraction exponent ≠ .ok (.mapping fields) := by
  intro h
  unfold numberValue at h
  split at h
  · split at h <;> cases h
  · cases h

theorem plainValue_ne_mapping {text rest : List Char}
    (fields : List (Value × Value)) :
    plainValue text ≠ .ok (.mapping fields, rest) := by
  intro h
  unfold plainValue at h
  split at h
  · next found hfound =>
      obtain rfl := Except.ok.inj h
      obtain ⟨named, hmem, hname⟩ := List.exists_of_findSome?_eq_some hfound
      obtain ⟨after, -, heq⟩ := Option.map_eq_some_iff.mp hname
      have hkind : ∀ named ∈ namedValues, named.2.kindName ≠ "dict" := by decide
      exact hkind named hmem (congrArg Value.kindName (Prod.mk.inj heq).1)
  · unfold number at h
    dsimp only at h
    split at h
    · cases h
    · split at h
      · next number hnumber =>
          obtain ⟨rfl, -⟩ := Prod.mk.inj (Except.ok.inj h)
          exact numberValue_ne_mapping fields hnumber
      · cases h

theorem nodup_written_of_decode {text : String} {fields : List (Value × Value)}
    (h : decode text = .ok (.mapping fields)) :
    ((Structured.written fields).map (·.1)).Nodup := by
  obtain ⟨after, hread, -⟩ := exists_value_of_decodeChars h
  unfold enoughFuel Json.value at hread
  split at hread
  · split at hread <;> cases hread
  · split at hread
    · cases hread
    · split at hread <;> cases hread
  · split at hread
    · obtain ⟨hfields, -⟩ := Prod.mk.inj (Except.ok.inj hread)
      obtain rfl := Value.mapping.inj hfields
      exact List.nodup_nil
    · split at hread
      · next given rest hgiven =>
          have hkeys : ∀ field ∈ given, field.1.isText = true :=
            fun field hfield => ((givesJson _).members hgiven field hfield).1
          obtain ⟨hfields, -⟩ := Prod.mk.inj (Except.ok.inj hread)
          rw [← Structured.map_textField_written hkeys, Value.ofFields_text]
            at hfields
          obtain rfl := Value.mapping.inj hfields
          rw [Structured.written_textField]
          exact Assoc.nodup_keys_ofList _
      · cases hread
  · exact absurd hread (plainValue_ne_mapping fields)

end Json

namespace Structured

/-! ## What is read -/

theorem exists_texts_of_entry {defaultTrait : String} {field : Value × Value}
    {entry : String × List Record}
    (h : entryOfField defaultTrait field = .ok entry) :
    ∃ records : List TextRecord,
        entry = (field.1.toText, records.map TextRecord.record) ∧
      records.length = (descriptorsOf field.2).length := by
  obtain ⟨crate, hcrate, h⟩ := exists_of_bind_eq_ok h
  obtain ⟨records, hrecords, h⟩ := exists_of_bind_eq_ok h
  have hlength := (forall₂_of_mapM_eq_ok hrecords).length_eq
  obtain ⟨given, rfl, -⟩ := exists_map_of_mapM TextRecord.record (fun _ => True)
    (fun _ _ hrecord => by simpa using exists_textRecord_of_descriptor hrecord)
      hrecords
  have htext : field.1.toText = crate := by
    unfold Value.printed at hcrate
    split at hcrate
    · exact Except.ok.inj hcrate
    · cases hcrate
  rw [List.length_map] at hlength
  exact ⟨given, htext ▸ (Except.ok.inj h).symm, hlength.symm⟩

/-- How many descriptors, or records, there are under each key. -/
def sizes {α β : Type} (size : β → Nat) (fields : List (α × β)) :
    List (α × Nat) :=
  fields.map fun field => (field.1, size field.2)

theorem exists_texts_of_entries {defaultTrait : String}
    {fields : List (Value × Value)} {read : List (String × List Record)}
    (h : List.Forall₂
      (fun field entry => entryOfField defaultTrait field = .ok entry)
      fields read) :
    ∃ entries : List (String × List TextRecord),
      read = entries.map
          (fun entry => (entry.1, entry.2.map TextRecord.record)) ∧
        sizes List.length entries =
          sizes (fun value => (descriptorsOf value).length)
            (written fields) := by
  induction h with
  | nil => exact ⟨[], rfl, rfl⟩
  | cons hentry _ ih =>
      obtain ⟨records, rfl, hlength⟩ := exists_texts_of_entry hentry
      obtain ⟨entries, rfl, hsizes⟩ := ih
      refine ⟨(_, records) :: entries, rfl, ?_⟩
      rw [written, List.map_cons, sizes, sizes, List.map_cons,
        List.map_cons, hlength]
      exact congrArg _ hsizes

/-- A mapping is read field by field, with a record for each descriptor. -/
theorem exists_entries_of_ofValue {fields : List (Value × Value)}
    {source defaultTrait : String} {fragment : Fragment}
    (h : ofValue (.mapping fields) source defaultTrait = .ok fragment) :
    ∃ entries : List (String × List TextRecord),
      fragment = Fragment.ofTexts (Assoc.ofList entries) (.text source) ∧
        sizes List.length entries =
          sizes (fun value => (descriptorsOf value).length)
            (written fields) := by
  obtain ⟨read, hread, h⟩ := exists_of_bind_eq_ok h
  obtain ⟨entries, rfl, hsizes⟩ :=
    exists_texts_of_entries (forall₂_of_mapM_eq_ok (eq_ok_of_liftValue hread))
  exact ⟨entries, (Except.ok.inj h).symm.trans
    (Fragment.ofRecords_texts entries source), hsizes⟩

/-! ## Counting -/

theorem length_descriptorsIn (crates : List (String × Value)) :
    (descriptorsIn crates).length =
      ((sizes (fun value => (descriptorsOf value).length) crates).map
        (·.2)).sum := by
  rw [descriptorsIn, List.length_flatMap, sizes, List.map_map]
  rfl

theorem length_textElements (crates : Assoc String (List TextRecord)) :
    (textElements crates).length =
      ((sizes List.length crates).map (·.2)).sum := by
  rw [textElements, List.length_flatMap, sizes, List.map_map]
  simp [Function.comp_def]

theorem size_ofTexts (crates : Assoc String (List TextRecord))
    (source : Value) :
    (Fragment.ofTexts crates source).size =
      .ok (textElements crates).length := by
  have hsizes : (crates.map fun field =>
      (field.1, Entry.listed
        (field.2.map fun given => .record given.record))).mapM
        (fun field => field.2.size) =
          .ok ((sizes List.length crates).map (·.2)) := by
    rw [List.mapM_map, sizes, List.map_map]
    refine mapM_eq_ok_map fun field _ => ?_
    simp [Entry.size]
  unfold Fragment.size Fragment.ofTexts Entries.crates
  simp only [bind, Except.bind, hsizes, length_textElements]
  rfl

/-- The records that are read stand for the descriptors under the last of all
keys that are written alike. -/
theorem length_textElements_ofList {entries : List (String × List TextRecord)}
    {fields : List (String × Value)}
    (h : sizes List.length entries =
      sizes (fun value => (descriptorsOf value).length) fields) :
    (textElements (Assoc.ofList entries)).length =
      (descriptorsIn (Assoc.lasting fields)).length := by
  have hread : sizes List.length (Assoc.ofList entries) =
      Assoc.ofList (sizes List.length entries) := (Assoc.ofList_map _ _).symm
  have hlasting :
      sizes (fun value => (descriptorsOf value).length) (Assoc.lasting fields) =
      Assoc.lasting (sizes (fun value => (descriptorsOf value).length)
        fields) :=
    (Assoc.lasting_map (fun value => (descriptorsOf value).length) fields).symm
  rw [length_textElements, length_descriptorsIn, hread, hlasting, h]
  exact ((Assoc.ofList_perm_lasting _).map _).sum_eq

theorem length_descriptorsIn_lasting (fields : List (String × Value)) :
    (descriptorsIn (Assoc.lasting fields)).length +
      (descriptorsIn (Assoc.overwritten fields)).length =
        (descriptorsIn fields).length := by
  have hperm := (Assoc.lasting_append_overwritten_perm fields).flatMap_right
    fun field => descriptorsOf field.2
  rw [List.flatMap_append] at hperm
  rw [← List.length_append]
  exact hperm.length_eq

theorem descriptorsIn_eq_nil_iff {fields : List (String × Value)} :
    descriptorsIn fields = [] ↔ ∀ field ∈ fields,
      descriptorsOf field.2 = [] := by
  rw [descriptorsIn, List.flatMap_eq_nil_iff]

/-! ## Merging -/

/-- Merging adds a record, counts it as a duplicate, or drops it. -/
theorem total_merge (registry : Registry)
    (crates : Assoc String (List TextRecord)) (source : Value) :
    (registry.merge (.fragment (Fragment.ofTexts crates source))).report.total =
      (textElements crates).length := by
  obtain ⟨hreport, -⟩ :=
    registry.merge_eq (.fragment (Fragment.ofTexts crates source))
  have hall := Payload.length_facts_add_droppings crates source
  have haccepted :
      (Payload.fragment (Fragment.ofTexts crates source)).isAccepted = true :=
        rfl
  rw [hreport, Payload.report, if_pos haccepted, MergeReport.total]
  dsimp only
  omega

/-- A mapping that can be read makes a record of every descriptor but those
under a key that a later key is written like.  So no descriptor is lost exactly
when nothing is listed under such a key, which is so when no two keys are
written alike, as in every object of JSON.  Merging accounts for the records,
and not for what was lost before. -/
theorem size_ofValue {fields : List (Value × Value)}
    {source defaultTrait : String} {fragment : Fragment}
    (h : ofValue (.mapping fields) source defaultTrait = .ok fragment) :
    let all := (descriptorsIn (written fields)).length
    let kept := (descriptorsIn (Assoc.lasting (written fields))).length
    let lost := (descriptorsIn (Assoc.overwritten (written fields))).length
    fragment.size = .ok kept ∧ kept + lost = all ∧
      (fragment.size = .ok all ↔
        ∀ field ∈ Assoc.overwritten (written fields),
          descriptorsOf field.2 = []) ∧
      (((written fields).map (·.1)).Nodup → fragment.size = .ok all) ∧
      (∀ text, Json.decode text = .ok (.mapping fields) →
        fragment.size = .ok all) ∧
      ∀ registry : Registry,
        let report := (registry.merge (.fragment fragment)).report
        report.added + report.duplicates + report.dropped = kept := by
  intro all kept lost
  obtain ⟨entries, rfl, hsizes⟩ := exists_entries_of_ofValue h
  have hlength := length_textElements_ofList hsizes
  have hsize : (Fragment.ofTexts (Assoc.ofList entries) (.text source)).size =
      .ok kept := by
    rw [size_ofTexts, hlength]
  have hall : kept + lost = all := length_descriptorsIn_lasting (written fields)
  have hdistinct (hkeys : ((written fields).map (·.1)).Nodup) : kept = all := by
    have hnone : lost = 0 := by
      simp only [lost, Assoc.overwritten_of_nodup hkeys]
      rfl
    omega
  refine ⟨hsize, hall, ?_, ?_, ?_, ?_⟩
  · rw [hsize, ← descriptorsIn_eq_nil_iff, ← List.length_eq_zero_iff,
      Except.ok.injEq]
    omega
  · exact fun hkeys => hsize.trans (congrArg _ (hdistinct hkeys))
  · exact fun text hread =>
      hsize.trans (congrArg _ (hdistinct (Json.nodup_written_of_decode hread)))
  · intro registry
    exact (total_merge registry _ _).trans (congrArg _ hlength)

/-- Descriptors under the absent value, under its text, and under another
key. -/
def absentFields : List (Value × Value) := [
  (.null, .list [
    .mapping [(.text "trait", .text "Display"), (.text "type", .text "Foo")],
    .text "junk"]),
  (.text "core",
    .mapping [(.text "trait", .text "Display"), (.text "type", .text "Bar")]),
  (.text "None", .list
    [.mapping [(.text "trait", .text "Debug"), (.text "type", .text "Foo")]])]

/-- The two descriptors under the absent value are lost. -/
theorem size_ofValue_absent :
    ∃ fragment, ofValue (.mapping absentFields) "a.yaml" "" = .ok fragment ∧
      fragment.size = .ok 2 ∧
        (descriptorsIn (written absentFields)).length = 4 ∧
      ∀ registry : Registry,
        let report := (registry.merge (.fragment fragment)).report
        report.added + report.duplicates + report.dropped = 2 := by
  have hread : ∃ fragment, ofValue (.mapping absentFields) "a.yaml" "" =
      .ok fragment := ⟨_, rfl⟩
  obtain ⟨fragment, hfragment⟩ := hread
  obtain ⟨hsize, -, -, -, -, hreport⟩ := size_ofValue hfragment
  have hkept : (descriptorsIn (Assoc.lasting (written absentFields))).length =
      2 := by decide
  rw [hkept] at hsize hreport
  exact ⟨fragment, hfragment, hsize, by decide, hreport⟩

/-- A number and its text as keys of one mapping. -/
def numberText : List Char :=
  ("1: [\x7btrait: Display, type: Foo\x7d]\n"
    ++ "'1': [\x7btrait: Display, type: Bar\x7d]\n").toList

/-- How many descriptors a value lists, and how many records are read for
them. -/
def counts? (document : Value) : Option (Nat × Nat) :=
  match document with
  | .mapping fields =>
      ((ofValue document "a.yaml" "").toOption.bind fun fragment =>
        fragment.size.toOption).map
        fun size => ((descriptorsIn (written fields)).length, size)
  | _ => none

theorem of_counts? {document : Value} {listed size : Nat}
    (h : counts? document = some (listed, size)) :
    ∃ fields fragment, document = .mapping fields ∧
      (descriptorsIn (written fields)).length = listed ∧
      ofValue document "a.yaml" "" = .ok fragment ∧
        fragment.size = .ok size := by
  unfold counts? at h
  split at h
  · next fields =>
      obtain ⟨count, hcount, heq⟩ := Option.map_eq_some_iff.mp h
      obtain ⟨fragment, hread, hsize⟩ := Option.bind_eq_some_iff.mp hcount
      obtain ⟨hlisted, rfl⟩ := Prod.mk.inj heq
      exact ⟨fields, fragment, rfl, hlisted, toOption_eq_some_iff.mp hread,
        toOption_eq_some_iff.mp hsize⟩
  · cases h

/-- The descriptor under the number is lost. -/
theorem size_ofValue_number :
    ∃ fields fragment, Yaml.decodeDescriptors (.ofText numberText) =
        .ok (.mapping fields) ∧
      (descriptorsIn (written fields)).length = 2 ∧
      ofValue (.mapping fields) "a.yaml" "" = .ok fragment ∧
        fragment.size = .ok 1 := by
  have hcounts :
      (Yaml.decodeDescriptors (.ofText numberText)).toOption.bind counts? =
      some (2, 1) := by
    decide +kernel
  obtain ⟨document, hdocument, hcounts⟩ := Option.bind_eq_some_iff.mp hcounts
  obtain ⟨fields, fragment, rfl, hlisted, hread, hsize⟩ := of_counts? hcounts
  exact ⟨fields, fragment, toOption_eq_some_iff.mp hdocument, hlisted,
    hread, hsize⟩

end Structured

end TraitIndex
