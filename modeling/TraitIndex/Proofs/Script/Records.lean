import Mathlib.Data.List.Forall2
import TraitIndex.Proofs.Markup.Spacing
import TraitIndex.Proofs.Outcome
import TraitIndex.Proofs.Script.Lines

/-!
# Records of texts, written and read

A record whose fields are texts is written without fail, and its descriptor is
read back as a record of texts.  What comes back differs from what was written
in the trait and the crate it is read for, in the markup it was written with,
and in the constraint, which is read off the markup.
-/

namespace TraitIndex

/-! ## Lists of results -/

section

variable {α β ε : Type}

theorem mapM_eq_ok_of_forall₂ {step : α → Except ε β} {given : List α}
    {results : List β}
    (h : List.Forall₂ (fun a b => step a = .ok b) given results) :
    given.mapM step = .ok results := by
  induction h with
  | nil => rfl
  | cons hhead _ ih =>
      rw [List.mapM_cons, hhead, ih]
      rfl

theorem forall₂_of_mapM_eq_ok {step : α → Except ε β} {given : List α}
    {results : List β} (h : given.mapM step = .ok results) :
    List.Forall₂ (fun a b => step a = .ok b) given results := by
  induction given generalizing results with
  | nil =>
      obtain rfl := Except.ok.inj h
      exact .nil
  | cons a given ih =>
      rw [List.mapM_cons] at h
      obtain ⟨result, hresult, h⟩ := exists_of_bind_eq_ok h
      obtain ⟨others, hothers, h⟩ := exists_of_bind_eq_ok h
      obtain rfl := Except.ok.inj h
      exact .cons hresult (ih hothers)

theorem exists_of_mapM_eq_error {step : α → Except ε β} {given : List α}
    {fault : ε} (h : given.mapM step = .error fault) : ∃ a ∈ given,
      step a = .error fault := by
  induction given with
  | nil => cases h
  | cons a given ih =>
      rw [List.mapM_cons] at h
      cases hhead : step a with
      | error cause =>
          rw [hhead] at h
          obtain rfl := Except.error.inj h
          exact ⟨a, List.mem_cons_self, hhead⟩
      | ok result =>
          have hrest : given.mapM step = .error fault := by
            rw [hhead] at h
            cases hothers : given.mapM step with
            | error cause => rw [hothers] at h; exact h
            | ok others => rw [hothers] at h; cases h
          obtain ⟨later, hlater, hfault⟩ := ih hrest
          exact ⟨later, List.mem_cons_of_mem _ hlater, hfault⟩

theorem exists_of_mem_of_forall₂ {related : α → β → Prop} {given : List α}
    {results : List β} (h : List.Forall₂ related given results) {a : α}
    (ha : a ∈ given) :
    ∃ b ∈ results, related a b := by
  induction h with
  | nil => exact absurd ha List.not_mem_nil
  | @cons first result _ _ hfirst _ ih =>
      obtain rfl | hrest := List.mem_cons.mp ha
      · exact ⟨result, List.mem_cons_self, hfirst⟩
      · obtain ⟨b, hb, hrelated⟩ := ih hrest
        exact ⟨b, List.mem_cons_of_mem _ hb, hrelated⟩

theorem forall₂_map {related : α → β → Prop} {result : α → β} {given : List α}
    (h : ∀ a ∈ given, related a (result a)) :
    List.Forall₂ related given (given.map result) :=
  List.forall₂_map_right_iff.mpr (List.forall₂_same.mpr h)

theorem mapM_eq_ok_map {step : α → Except ε β} {result : α → β} {given : List α}
    (h : ∀ a ∈ given, step a = .ok (result a)) :
    given.mapM step = .ok (given.map result) :=
  mapM_eq_ok_of_forall₂ (forall₂_map h)

theorem exists_forall₂ {related : α → β → Prop} {given : List α}
    (h : ∀ a ∈ given, ∃ b, related a b) : ∃ results,
      List.Forall₂ related given results := by
  induction given with
  | nil => exact ⟨[], .nil⟩
  | cons a given ih =>
      obtain ⟨b, hb⟩ := h a List.mem_cons_self
      obtain ⟨results, hresults⟩ :=
        ih fun other hother => h other (List.mem_cons_of_mem _ hother)
      exact ⟨b :: results, .cons hb hresults⟩

end

/-! ## Records of texts -/

/-- A record whose fields are texts, and a truth value where one belongs. -/
structure TextRecord where
  traitName : String
  implementingType : String
  owningCrate : String
  constraintText : String
  synthetic : Bool
  rendered : String

namespace TextRecord

def record (given : TextRecord) : Record where
  traitName := .text given.traitName
  implementingType := .text given.implementingType
  owningCrate := .text given.owningCrate
  constraintText := .text given.constraintText
  synthetic := .bool given.synthetic
  rendered := .text given.rendered

/-- What a record without markup states. -/
def plain (given : TextRecord) : String :=
  if given.constraintText = "" then
    "impl " ++ Text.lastSegment given.traitName ++ " for " ++
      Text.lastSegment given.implementingType
  else given.constraintText

def markup (given : TextRecord) : String :=
  if given.rendered = "" then String.ofList (Markup.escape given.plain.toList)
  else given.rendered

def descriptor (given : TextRecord) : Value :=
  .mapping [
    (.text "text", .text given.markup),
    (.text "synthetic", .bool given.synthetic),
    (.text "types", .list [.text given.implementingType])]

/-- The record read for a trait and a crate from what was written. -/
def reread (traitName crate constraint : String) (given : TextRecord) :
    TextRecord :=
  { given with
    traitName := traitName
    owningCrate := crate
    constraintText := constraint
    rendered := given.markup }

end TextRecord

/-- A fragment whose entries are lists of records of texts. -/
def Fragment.ofTexts (crates : Assoc String (List TextRecord))
    (source : Value) : Fragment where
  entries := .byCrate (crates.map fun field =>
    (field.1, .listed (field.2.map fun given => .record given.record)))
  source := source

theorem Fragment.ofRecords_texts (crates : List (String × List TextRecord))
    (source : String) :
    Fragment.ofRecords
        (Assoc.ofList (crates.map fun field =>
          (field.1, field.2.map TextRecord.record))) source =
      Fragment.ofTexts (Assoc.ofList crates) (.text source) := by
  rw [Assoc.ofList_map, Fragment.ofRecords, Fragment.ofTexts, List.map_map]
  simp [Function.comp_def]

/-! ## Writing -/

namespace TextRecord

variable (given : TextRecord)

theorem plain_ne_empty : given.plain ≠ "" := by
  unfold plain
  split
  · intro heq
    have hlength := congrArg String.length heq
    simp at hlength
  · next hne => exact hne

theorem markup_ne_empty : given.markup ≠ "" := by
  unfold markup
  split
  · intro heq
    have hescape : Markup.escape given.plain.toList = [] :=
      String.ofList_eq_empty_iff.mp heq
    have hplain : given.plain.toList ≠ [] :=
      mt String.toList_eq_nil_iff.mp given.plain_ne_empty
    exact Markup.escape_ne_nil hplain hescape
  · next hne => exact hne

theorem isTruthy_text {value : String} : (Value.text value).isTruthy = true ↔
    value ≠ "" := by
  simp [Value.isTruthy]

theorem plainStatement_record :
    Script.plainStatement given.record = .ok given.plain := by
  unfold Script.plainStatement plain
  by_cases h : given.constraintText = ""
  · have hfalse : ¬given.record.constraintText.isTruthy = true :=
      mt isTruthy_text.mp (not_not.mpr h)
    rw [if_neg hfalse, if_pos h]
    rfl
  · have htrue : given.record.constraintText.isTruthy = true :=
      isTruthy_text.mpr h
    rw [if_pos htrue, if_neg h]
    rfl

theorem markupOf_record :
    Script.markupOf given.record = .ok (.text given.markup) := by
  unfold Script.markupOf markup
  by_cases h : given.rendered = ""
  · have hfalse : ¬given.record.rendered.isTruthy = true :=
      mt isTruthy_text.mp (not_not.mpr h)
    rw [if_neg hfalse, if_pos h, plainStatement_record]
    rfl
  · have htrue : given.record.rendered.isTruthy = true := isTruthy_text.mpr h
    rw [if_pos htrue, if_neg h]
    rfl

theorem descriptorOfRecord_record :
    Script.descriptorOfRecord given.record = .ok given.descriptor := by
  rw [Script.descriptorOfRecord, markupOf_record]
  rfl

end TextRecord

def described (crates : Assoc String (List TextRecord)) :
    List (String × List Value) :=
  crates.map fun field => (field.1, field.2.map TextRecord.descriptor)

namespace Script

theorem lineOfEntry_texts (crate : String) (records : List TextRecord) :
    lineOfEntry crate
      (.listed (records.map fun given => .record (TextRecord.record given))) =
      .ok (assignmentLine crate (records.map TextRecord.descriptor)) := by
  have hdescriptors :
      (records.map fun given => Element.record (TextRecord.record given)).mapM
      descriptorOfElement = .ok (records.map TextRecord.descriptor) := by
    rw [List.mapM_map]
    exact mapM_eq_ok_map fun given _ => given.descriptorOfRecord_record
  unfold lineOfEntry Entry.elements
  simp only [bind, Except.bind, hdescriptors]
  rfl

theorem write_ofTexts (crates : Assoc String (List TextRecord))
    (source : Value) :
    write (Fragment.ofTexts crates source) =
      .ok (String.ofList (scriptText (described crates))) := by
  have hlines : (crates.map fun field => (field.1,
      Entry.listed (field.2.map fun given =>
        .record (TextRecord.record given)))).mapM
        (fun field => lineOfEntry field.1 field.2) =
      .ok (crates.map fun field => assignmentLine field.1
        (field.2.map TextRecord.descriptor)) := by
    rw [List.mapM_map]
    exact mapM_eq_ok_map fun field _ => lineOfEntry_texts field.1 field.2
  unfold write Fragment.ofTexts Entries.crates
  simp only [bind, Except.bind, hlines]
  rw [scriptText, described, List.map_map]
  rfl

end Script

/-! ## Reading -/

namespace TextRecord

variable (given : TextRecord)

/-- The fields of a descriptor with their written forms. -/
def fields : List (String × List Char × Value) := [
  ("text", Json.encode (.text given.markup), .text given.markup),
  ("synthetic", Json.encode (.bool given.synthetic), .bool given.synthetic),
  ("types", Json.encode (.list [.text given.implementingType]),
    .list [.text given.implementingType])]

theorem encode_descriptor : Json.encode given.descriptor =
    '\x7b' :: Json.separated (given.fields.map Json.fieldText) ++ ['\x7d'] := by
  simp [descriptor, fields, Json.encode, Json.encodeFields, Json.fieldText,
    Json.keyName]

theorem ofFields_fields :
    Value.ofFields (given.fields.map Json.fieldValue) = given.descriptor := by
  simp [descriptor, fields, Json.fieldValue, Value.ofFields, Value.assign,
    Value.equals]

theorem reads_descriptor :
    Json.Reads (Json.encode given.descriptor) given.descriptor := by
  have hmarkup := Json.reads_encode_text given.markup
  have hsynthetic := Json.reads_bool given.synthetic
  have htypes : Json.Reads (Json.encode (.list [.text given.implementingType]))
      (.list [.text given.implementingType]) :=
    Json.reads_encode_list
      (by simpa using Json.reads_encode_text given.implementingType)
  have hobject := Json.reads_object given.fields
    (by simpa [fields] using ⟨hmarkup, hsynthetic, htypes⟩)
  rwa [← encode_descriptor, ofFields_fields] at hobject

theorem lineFeed_not_mem_encode_descriptor :
    '\n' ∉ Json.encode given.descriptor := by
  have htext (text : String) : '\n' ∉ Json.encode (.text text) :=
    Script.lineFeed_not_mem_encodeString text
  have hsynthetic : '\n' ∉ Json.encode (.bool given.synthetic) := by
    cases given.synthetic <;> decide
  have htypes : '\n' ∉ Json.encode (.list [.text given.implementingType]) :=
    Script.lineFeed_not_mem_encode_list
      (List.forall_mem_singleton.mpr (htext _))
  have hfields : ∀ field ∈ given.fields, '\n' ∉ field.2.1 := by
    simpa [fields] using ⟨htext given.markup, hsynthetic, htypes⟩
  have hparts : ∀ field ∈ given.fields, '\n' ∉ Json.fieldText field := by
    intro field hfield
    rw [Json.fieldText, List.mem_append, List.mem_cons, not_or, not_or]
    exact ⟨Script.lineFeed_not_mem_encodeString _, by decide,
      hfields field hfield⟩
  rw [encode_descriptor]
  exact Script.lineFeed_not_mem_enclosed (by decide)
    (Script.lineFeed_not_mem_separated (List.forall_mem_map.mpr hparts))
    (by decide)

theorem recordOfDescriptor_descriptor {traitName crate constraint : String}
    (h : Markup.plainText given.markup = .ok constraint) :
    Script.recordOfDescriptor traitName crate given.descriptor =
      .ok (given.reread traitName crate constraint).record := by
  unfold Script.recordOfDescriptor descriptor
  generalize hfields : [(Value.text "text", Value.text given.markup),
    (.text "synthetic", .bool given.synthetic),
    (.text "types", .list [.text given.implementingType])] = fields
  have htypes : Script.typeOfDescriptor fields =
      .ok given.implementingType := by
    rw [← hfields]
    rfl
  have hmarkup : Script.textOrEmpty fields "text" = .ok given.markup := by
    have htruthy : (Value.text given.markup).isTruthy = true :=
      isTruthy_text.mpr given.markup_ne_empty
    rw [← hfields]
    change (if (Value.text given.markup).isTruthy = true then _ else _) = _
    rw [if_pos htruthy]
    rfl
  have hsynthetic : Value.fieldOrNull fields "synthetic" =
      .bool given.synthetic := by
    rw [← hfields]
    rfl
  simp only [htypes, hmarkup, h, hsynthetic, bind, Except.bind]
  rfl

end TextRecord

namespace Script

/-- An assignment whose literals stand for a crate and its descriptors. -/
structure StandsFor (assignment : Assignment) (field : String × List Value) :
    Prop where
  crate : Json.decodeChars assignment.crate = .ok (.text field.1)
  descriptors : Json.decodeChars assignment.descriptors = .ok (.list field.2)

theorem decodeLiteral_eq {literal : List Char} {content : Value}
    (h : Json.decodeChars literal = .ok content) (source : String) :
    decodeLiteral source literal = .ok content := by
  rw [decodeLiteral, h]

theorem entryOfAssignment_eq {assignment : Assignment}
    {field : String × List Value} {records : List TextRecord}
    {traitName : String} (h : StandsFor assignment field)
    (hrecords : List.Forall₂ (fun descriptor record =>
      recordOfDescriptor traitName field.1 descriptor = .ok
    (TextRecord.record record))
      field.2 records) (source : String) :
    entryOfAssignment traitName source assignment =
      .ok (field.1, records.map TextRecord.record) := by
  have hcrate := decodeLiteral_eq h.crate source
  have hlist := decodeLiteral_eq h.descriptors source
  have helements : liftValue (Value.list field.2).elements = .ok field.2 := rfl
  have hname : (Value.text field.1).toText = field.1 := rfl
  have hmapped : field.2.mapM (fun descriptor =>
      liftValue (recordOfDescriptor traitName field.1 descriptor)) =
        .ok (records.map TextRecord.record) := by
    apply mapM_eq_ok_of_forall₂
    apply List.forall₂_map_right_iff.mpr
    refine hrecords.imp fun descriptor record hrecord => ?_
    rw [hrecord]
    rfl
  unfold entryOfAssignment
  simp only [hcrate, hlist, bind, Except.bind, helements, hname, hmapped]
  rfl

theorem read_eq_ofTexts {text traitName source : String}
    {entries : List (String × List TextRecord)}
    (hmarker : Text.contains marker text.toList = true)
    (hentries : (assignments text.toList).mapM
      (entryOfAssignment traitName source) =
      .ok (entries.map fun entry => (entry.1, entry.2.map TextRecord.record))) :
    read text traitName source =
      .ok (Fragment.ofTexts (Assoc.ofList entries) (.text source)) := by
  unfold read
  rw [hmarker, hentries]
  exact congrArg Except.ok (Fragment.ofRecords_texts entries source)

end Script

end TraitIndex
