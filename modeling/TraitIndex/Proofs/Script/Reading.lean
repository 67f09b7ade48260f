import Mathlib.Data.List.Induction
import Mathlib.Data.List.Permutation
import TraitIndex.Proofs.Markup.Spacing
import TraitIndex.Proofs.Script.Literals
import TraitIndex.Proofs.Script.Records

/-!
# What scripts say

A script says what its assignments say one after the other: the crates stand in
the order of their first assignments, each with the descriptors of its last one.
Every descriptor makes a record, whatever kind of value it is, so a script is
refused for the form of its literals only.
-/

namespace TraitIndex

/-! ## Repeated assignments -/

namespace Assoc

variable {κ ν : Type} [DecidableEq κ]

theorem ofList_concat (fields : List (κ × ν)) (field : κ × ν) :
    ofList (fields ++ [field]) = insert field.1 field.2 (ofList fields) := by
  rw [ofList, List.foldl_append]
  rfl

theorem keys_ofList (fields : List (κ × ν)) :
    (ofList fields).keys = (fields.map (·.1)).eraseDups := by
  induction fields using List.reverseRecOn with
  | nil => rfl
  | append_singleton fields field ih =>
      rw [ofList_concat, List.map_append, List.map_singleton,
        List.eraseDups_append, ← ih]
      by_cases hmem : field.1 ∈ (ofList fields).keys
      · have hold : field.1 ∈ fields.map (·.1) := by
          rwa [ih, List.mem_eraseDups] at hmem
        rw [keys_insert_of_mem hmem]
        simp [List.removeAll, hold]
      · have hnew : field.1 ∉ fields.map (·.1) := by
          rwa [ih, List.mem_eraseDups] at hmem
        rw [keys_insert_of_not_mem hmem]
        simp [List.removeAll, hnew, List.eraseDups_cons]

theorem find?_ofList {before after : List (κ × ν)} {field : κ × ν}
    (h : ∀ later ∈ after, later.1 ≠ field.1) :
    (ofList (before ++ field :: after)).find? field.1 = some field.2 := by
  induction after using List.reverseRecOn with
  | nil => rw [ofList_concat, find?_insert_self]
  | append_singleton after later ih =>
      obtain ⟨hafter, hlater⟩ := List.forall_mem_append.mp h
      rw [← List.cons_append, ← List.append_assoc, ofList_concat,
        find?_insert_of_ne (hlater later List.mem_cons_self).symm, ih hafter]

end Assoc

namespace Script

/-! ## Records of descriptors -/

def fieldsOf : Value → List (Value × Value)
  | .mapping fields => fields
  | _ => []

/-- The type a descriptor names: the text of the first of its types. -/
def typeNamed (descriptor : Value) : String :=
  match Value.fieldOrNull (fieldsOf descriptor) "types" with
  | .list (first :: _) => first.toText
  | _ => ""

/-- The markup a descriptor gives. -/
def markupGiven (descriptor : Value) : String :=
  Value.givenText (fieldsOf descriptor) "text" ""

/-- A record as it is read for a trait and a crate from a descriptor. -/
structure DescribedBy (traitName crate : String) (descriptor : Value)
    (given : TextRecord) :
    Prop where
  traitName_eq : given.traitName = traitName
  owningCrate_eq : given.owningCrate = crate
  implementingType_eq : given.implementingType = typeNamed descriptor
  constraintText_eq : Markup.plainText (markupGiven descriptor) =
    .ok given.constraintText
  synthetic_eq : given.synthetic =
    (Value.fieldOrNull (fieldsOf descriptor) "synthetic").isTruthy
  rendered_eq : given.rendered = markupGiven descriptor

/-- The references in the markup of a descriptor can be resolved. -/
def Resolves (descriptor : Value) : Prop :=
  ∃ content, Markup.resolveReferences
    (Markup.blankTags (markupGiven descriptor).toList) = .ok content

section

variable {traitName crate : String} {descriptor : Value}

theorem typeOfDescriptor_eq {fields : List (Value × Value)}
    (h : ∀ field ∈ fields, Value.IsJson field.2) :
    typeOfDescriptor fields = .ok (typeNamed (.mapping fields)) := by
  have htypes := Value.isJson_fieldOrNull h "types"
  unfold typeOfDescriptor typeNamed fieldsOf
  generalize Value.fieldOrNull fields "types" = types at htypes ⊢
  cases htypes with
  | @list items hitems =>
      cases items with
      | nil => rfl
      | cons first more => exact (hitems first List.mem_cons_self).printed_eq
  | _ => rfl

theorem recordOfDescriptor_eq_blank
    (h : ∀ fields, descriptor ≠ .mapping fields) :
    fieldsOf descriptor = [] ∧ recordOfDescriptor traitName crate descriptor =
      .ok { Record.blank crate with traitName := .text traitName } := by
  cases descriptor with
  | mapping fields => exact absurd rfl (h fields)
  | _ => exact ⟨rfl, rfl⟩

theorem exists_recordOfDescriptor (traitName crate : String)
    (hjson : Value.IsJson descriptor) (h : Resolves descriptor) :
    ∃ given : TextRecord, DescribedBy traitName crate descriptor given ∧
      recordOfDescriptor traitName crate descriptor = .ok given.record := by
  obtain ⟨plain, hplain⟩ := Markup.exists_plainText h
  refine ⟨⟨traitName, typeNamed descriptor, crate, plain,
    (Value.fieldOrNull (fieldsOf descriptor) "synthetic").isTruthy,
    markupGiven descriptor⟩, ⟨rfl, rfl, rfl, hplain, rfl, rfl⟩, ?_⟩
  by_cases hobject : ∃ fields, descriptor = .mapping fields
  · obtain ⟨fields, rfl⟩ := hobject
    cases hjson with
    | mapping _ hfields =>
        have hmarkup :
            textOrEmpty fields "text" = .ok (markupGiven (.mapping fields)) :=
          Value.printedOr_eq_givenText hfields "text" ""
        unfold recordOfDescriptor
        simp only [typeOfDescriptor_eq hfields, hmarkup, hplain, bind,
          Except.bind]
        rfl
  · obtain ⟨hnone, hblank⟩ :=
      recordOfDescriptor_eq_blank (not_exists.mp hobject)
    simp only [typeNamed, markupGiven, hnone] at hplain ⊢
    obtain rfl : "" = plain := Except.ok.inj hplain
    exact hblank

end

/-! ## Assignments -/

/-- Both literals of an assignment are JSON. -/
def Assignment.Valid (assignment : Assignment) : Prop :=
  (∃ crate, Json.decodeChars assignment.crate = .ok crate) ∧
    ∃ list, Json.decodeChars assignment.descriptors = .ok list

/-- No number in an assignment is too long, nor is one in a reference of its
markup. -/
structure Assignment.WithinLimits (assignment : Assignment) : Prop where
  crate : ∀ fault, Json.decodeChars assignment.crate ≠ .error (.value fault)
  descriptors : ∀ fault, Json.decodeChars assignment.descriptors ≠
    .error (.value fault)
  references : ∀ list, Json.decodeChars assignment.descriptors =
      .ok (.list list) →
    ∀ descriptor ∈ list, Resolves descriptor

theorem WrittenFor.standsFor {assignment : Assignment}
    {field : String × List Value} (h : WrittenFor assignment field) :
    StandsFor assignment field :=
  ⟨h.crate.written.decodeChars_eq, h.descriptors.written.decodeChars_eq⟩

theorem Assignment.Opens.exists_standsFor {assignment : Assignment}
    (h : assignment.Opens) (hvalid : assignment.Valid) : ∃ field,
      StandsFor assignment field := by
  obtain ⟨⟨crate, hcrate⟩, list, hlist⟩ := hvalid
  obtain ⟨name, rfl⟩ := h.crate_text hcrate
  obtain ⟨descriptors, rfl⟩ := h.descriptors_list hlist
  exact ⟨(name, descriptors), hcrate, hlist⟩

theorem StandsFor.withinLimits {assignment : Assignment}
    {field : String × List Value} (h : StandsFor assignment field)
    (hresolves : ∀ descriptor ∈ field.2, Resolves descriptor) :
    assignment.WithinLimits where
  crate := by
    intro fault hfault
    rw [h.crate] at hfault
    cases hfault
  descriptors := by
    intro fault hfault
    rw [h.descriptors] at hfault
    cases hfault
  references := by
    intro list hlist
    rw [h.descriptors] at hlist
    obtain rfl := Value.list.inj (Except.ok.inj hlist)
    exact hresolves

/-- A crate with a record for each of its descriptors. -/
def EntryFor (traitName : String) (field : String × List Value)
    (entry : String × List TextRecord) : Prop :=
  entry.1 = field.1 ∧
    List.Forall₂ (DescribedBy traitName field.1) field.2 entry.2

section

variable {traitName source : String} {assignment : Assignment}
  {field : String × List Value}

theorem exists_entryFor (traitName source : String)
    (h : StandsFor assignment field)
    (hresolves : ∀ descriptor ∈ field.2, Resolves descriptor) :
    ∃ entry, EntryFor traitName field entry ∧
      entryOfAssignment traitName source assignment =
      .ok (entry.1, entry.2.map TextRecord.record) := by
  have hitems : ∀ descriptor ∈ field.2, Value.IsJson descriptor := by
    cases Json.isJson_of_decodeChars h.descriptors with
    | list hitems => exact hitems
  obtain ⟨records, hrecords⟩ := exists_forall₂ fun descriptor hdescriptor =>
    exists_recordOfDescriptor traitName field.1
      (hitems descriptor hdescriptor) (hresolves descriptor hdescriptor)
  exact ⟨(field.1, records), ⟨rfl, hrecords.imp fun _ _ hrecord => hrecord.1⟩,
    entryOfAssignment_eq h (hrecords.imp fun _ _ hrecord => hrecord.2) source⟩

theorem decodeChars_of_decodeLiteral {literal : List Char} {content : Value}
    (h : decodeLiteral source literal = .ok content) :
    Json.decodeChars literal = .ok content := by
  unfold decodeLiteral at h
  split at h
  · next found hfound => rwa [← Except.ok.inj h]
  · cases h
  · cases h

theorem format_of_decodeLiteral {literal : List Char} {fault : Fault}
    (hliteral : ∀ cause, Json.decodeChars literal ≠ .error (.value cause))
    (h : decodeLiteral source literal = .error fault) : ∃ cause,
      fault = .format cause := by
  unfold decodeLiteral at h
  split at h
  · cases h
  · exact ⟨_, (Except.error.inj h).symm⟩
  · next cause hcause => exact absurd hcause (hliteral cause)

theorem valid_of_entryOfAssignment {entry : String × List Record}
    (h : entryOfAssignment traitName source assignment = .ok entry) :
    assignment.Valid := by
  obtain ⟨crate, hcrate, h⟩ := exists_of_bind_eq_ok h
  obtain ⟨list, hlist, -⟩ := exists_of_bind_eq_ok h
  exact ⟨⟨crate, decodeChars_of_decodeLiteral hcrate⟩, list,
    decodeChars_of_decodeLiteral hlist⟩

/-- What keeps an assignment from being read is the form of a literal. -/
theorem format_of_entryOfAssignment {fault : Fault} (hopens : assignment.Opens)
    (hlimits : assignment.WithinLimits)
    (h : entryOfAssignment traitName source assignment = .error fault) :
    ∃ cause, fault = .format cause := by
  by_cases hvalid : assignment.Valid
  · obtain ⟨field, hstands⟩ := hopens.exists_standsFor hvalid
    obtain ⟨entry, -, hentry⟩ := exists_entryFor traitName source hstands
      (hlimits.references _ hstands.descriptors)
    rw [hentry] at h
    cases h
  · unfold entryOfAssignment at h
    cases hcrate : decodeLiteral source assignment.crate with
    | error cause =>
        rw [hcrate] at h
        obtain rfl := Except.error.inj h
        exact format_of_decodeLiteral hlimits.crate hcrate
    | ok crate =>
        cases hlist : decodeLiteral source assignment.descriptors with
        | error cause =>
            rw [hcrate, hlist] at h
            obtain rfl := Except.error.inj h
            exact format_of_decodeLiteral hlimits.descriptors hlist
        | ok list =>
            exact absurd ⟨⟨crate, decodeChars_of_decodeLiteral hcrate⟩, list,
              decodeChars_of_decodeLiteral hlist⟩ hvalid

end

/-! ## Whole scripts -/

/-- The crates that a sequence of assignments gives their records: each stands
where it was assigned to first, with the records of its last assignment. -/
structure CratesOf (traitName : String) (fields : List (String × List Value))
    (crates : Assoc String (List TextRecord)) : Prop where
  keys_eq : crates.keys = (fields.map (·.1)).eraseDups
  find?_last : ∀ before field after, fields = before ++ field :: after →
    (∀ later ∈ after, later.1 ≠ field.1) →
      ∃ records, crates.find? field.1 = some records ∧
        List.Forall₂ (DescribedBy traitName field.1) field.2 records

theorem exists_of_forall₂_append {α β : Type} {related : α → β → Prop}
    {before after : List α} {item : α} {results : List β}
    (h : List.Forall₂ related (before ++ item :: after) results) :
    ∃ first result last, results = first ++ result :: last ∧
        related item result ∧
      List.Forall₂ related after last := by
  induction before generalizing results with
  | nil =>
      obtain ⟨result, last, hresult, hlast, rfl⟩ :=
        List.forall₂_cons_left_iff.mp h
      exact ⟨[], result, last, rfl, hresult, hlast⟩
  | cons _ before ih =>
      obtain ⟨other, others, -, hothers, rfl⟩ := List.forall₂_cons_left_iff.mp h
      obtain ⟨first, result, last, rfl, hresult, hlast⟩ := ih hothers
      exact ⟨other :: first, result, last, rfl, hresult, hlast⟩

section

variable {traitName : String} {fields : List (String × List Value)}

theorem map_fst_eq {entries : List (String × List TextRecord)}
    (h : List.Forall₂ (EntryFor traitName) fields entries) :
    entries.map (·.1) = fields.map (·.1) := by
  induction h with
  | nil => rfl
  | cons hentry _ ih => exact congrArg₂ List.cons hentry.1 ih

theorem cratesOf_ofList {entries : List (String × List TextRecord)}
    (h : List.Forall₂ (EntryFor traitName) fields entries) :
    CratesOf traitName fields (Assoc.ofList entries) where
  keys_eq := by rw [Assoc.keys_ofList, map_fst_eq h]
  find?_last := by
    rintro before field after rfl hlast
    obtain ⟨first, entry, last, rfl, ⟨hname, hrecords⟩, hafter⟩ :=
      exists_of_forall₂_append h
    have hlater : ∀ later ∈ last, later.1 ≠ entry.1 := by
      rw [hname, ← List.forall_mem_map (f := Prod.fst) (P := (· ≠ field.1)),
        map_fst_eq hafter]
      exact List.forall_mem_map.mpr hlast
    exact ⟨entry.2, hname ▸ Assoc.find?_ofList hlater, hrecords⟩

theorem exists_entries (traitName source : String) {given : List Assignment}
    (h : List.Forall₂ StandsFor given fields)
    (hresolves : ∀ field ∈ fields, ∀ descriptor ∈ field.2,
      Resolves descriptor) :
    ∃ entries, List.Forall₂ (EntryFor traitName) fields entries ∧
      given.mapM (entryOfAssignment traitName source) =
        .ok (entries.map fun entry =>
          (entry.1, entry.2.map TextRecord.record)) := by
  induction h with
  | nil => exact ⟨[], .nil, rfl⟩
  | cons hstands _ ih =>
      obtain ⟨hfirst, hrest⟩ := List.forall_mem_cons.mp hresolves
      obtain ⟨entry, hentry, hread⟩ :=
        exists_entryFor traitName source hstands hfirst
      obtain ⟨entries, hentries, hreads⟩ := ih hrest
      refine ⟨entry :: entries, .cons hentry hentries, ?_⟩
      rw [List.mapM_cons, hread, hreads]
      rfl

/-- A script whose assignments stand for crates and descriptors is read as what
they say. -/
theorem exists_read (traitName source : String) {text : String}
    (hmarker : Text.contains marker text.toList = true)
    (h : List.Forall₂ StandsFor (assignments text.toList) fields)
    (hresolves : ∀ field ∈ fields, ∀ descriptor ∈ field.2,
      Resolves descriptor) :
    ∃ crates, CratesOf traitName fields crates ∧
      read text traitName source =
        .ok (Fragment.ofTexts crates (.text source)) := by
  obtain ⟨entries, hentries, hreads⟩ :=
    exists_entries traitName source h hresolves
  exact ⟨_, cratesOf_ofList hentries, read_eq_ofTexts hmarker hreads⟩

theorem exists_read_of_valid (traitName source : String) {text : String}
    (hlimits : ∀ assignment ∈ assignments text.toList, assignment.WithinLimits)
    (hmarker : marker <:+: text.toList)
    (hvalid : ∀ assignment ∈ assignments text.toList, assignment.Valid) :
    ∃ fields, List.Forall₂ StandsFor (assignments text.toList) fields ∧
      ∃ crates, CratesOf traitName fields crates ∧
        read text traitName source =
          .ok (Fragment.ofTexts crates (.text source)) := by
  obtain ⟨fields, hstands⟩ := exists_forall₂ fun assignment hassignment =>
    (opens_of_mem_assignments hassignment).exists_standsFor
    (hvalid assignment hassignment)
  refine ⟨fields, hstands,
    exists_read traitName source (Text.contains_iff.mpr hmarker) hstands ?_⟩
  intro field hfield
  obtain ⟨assignment, hassignment, hfound⟩ :=
    exists_of_mem_of_forall₂ hstands.flip hfield
  exact (hlimits assignment hassignment).references _ hfound.descriptors

theorem marked_and_valid_of_read {text source : String} {fragment : Fragment}
    (h : read text traitName source = .ok fragment) :
    marker <:+: text.toList ∧ ∀ assignment ∈ assignments text.toList,
      assignment.Valid := by
  unfold read at h
  split_ifs at h with hmarker
  · cases h
  · obtain ⟨entries, hentries, -⟩ := exists_of_bind_eq_ok h
    refine ⟨Text.contains_iff.mp (by simpa using hmarker),
      fun assignment hassignment => ?_⟩
    obtain ⟨entry, -, hentry⟩ :=
      exists_of_mem_of_forall₂ (forall₂_of_mapM_eq_ok hentries) hassignment
    exact valid_of_entryOfAssignment hentry

theorem format_of_read {text source : String} {fault : Fault}
    (hlimits : ∀ assignment ∈ assignments text.toList, assignment.WithinLimits)
    (h : read text traitName source = .error fault) : ∃ cause,
      fault = .format cause := by
  unfold read at h
  split_ifs at h
  · exact ⟨_, (Except.error.inj h).symm⟩
  · cases hentries : (assignments text.toList).mapM
      (entryOfAssignment traitName source) with
    | ok entries =>
        rw [hentries] at h
        cases h
    | error cause =>
        rw [hentries] at h
        obtain rfl := Except.error.inj h
        obtain ⟨assignment, hassignment, hfault⟩ :=
          exists_of_mapM_eq_error hentries
        exact format_of_entryOfAssignment (opens_of_mem_assignments hassignment)
          (hlimits assignment hassignment) hfault

end

/-- Assignments whose literals look like ends of assignments, to two crates of
which one is written in two ways. -/
def repeatedAssignments : List Assignment := [
  ⟨"\"\\u0061\"".toList,
    "[1,25e-1,\x7b\"types\":[[\"x\"]],\"text\":\"<b>T</b>&#39;\"\x7d]".toList⟩,
  ⟨"\"b\\\"] = [];\"".toList, "[ ]".toList⟩,
  ⟨"\"a\"".toList, "[null,\"];\",\x7b\"types\":\x7b\x7d\x7d]".toList⟩]

def repeatedFields : List (String × List Value) := [
  ("a", [.int 1, .float (.ofDecimal false 25 (-1)),
    .mapping [(.text "types", .list [.list [.text "x"]]),
      (.text "text", .text "<b>T</b>&#39;")]]),
  ("b\"] = [];", []),
  ("a", [.null, .text "];", .mapping [(.text "types", .mapping [])]])]

/-- The number 1, and 25 with a power of ten. -/
def wholeNumber : Json.NumberText where
  negative := false
  whole := ['1']
  fraction := none
  power := none
  isDigits_whole := by decide
  zero_alone := by decide
  isDigits_fraction := nofun

def poweredNumber : Json.NumberText where
  negative := false
  whole := ['2', '5']
  fraction := none
  power := some ⟨'e', ['-'], ['1'], by decide, by decide, by decide⟩
  isDigits_whole := by decide
  zero_alone := by decide
  isDigits_fraction := nofun

def firstItem : Json.Item := .ofItems [] [
  .bare (wholeNumber.text, .int 1),
  .bare (poweredNumber.text, .float (.ofDecimal false 25 (-1))),
  .ofFields [] [
    ("types", .ofItems [] [.ofItems [] [.ofText "x"]]),
    ("text", .ofText "<b>T</b>&#39;")]]

def lastItem : Json.Item := .ofItems [] [
  .bare ("null".toList, .null),
  .ofText "];",
  .ofFields [] [("types", .ofFields [] [])]]

theorem written_firstItem :
    Json.Written repeatedAssignments[0].descriptors
      (.list repeatedFields[0].2) := by
  have htext : firstItem.text = repeatedAssignments[0].descriptors := by
    decide +kernel
  have hcontent : firstItem.content = .list repeatedFields[0].2 := by
    simp [firstItem, repeatedFields, Json.Item.ofItems, Json.Item.ofFields,
      Json.Item.ofText, Json.fieldValue, Value.ofFields, Value.assign,
      Value.equals]
  rw [← htext, ← hcontent, ← Json.Item.IsWritten]
  have htypes : (Json.Item.ofItems [] [.ofItems [] [.ofText "x"]]).IsWritten :=
    .ofItems (by decide) (List.forall_mem_singleton.mpr
      (.ofItems (by decide) (List.forall_mem_singleton.mpr (.ofText _))))
  refine .ofItems (by decide)
    (List.forall_mem_cons.mpr ⟨.number wholeNumber rfl, List.forall_mem_cons.mpr
      ⟨.number poweredNumber rfl, List.forall_mem_singleton.mpr ?_⟩⟩)
  exact .ofFields (by decide) (List.forall_mem_cons.mpr
    ⟨htypes, List.forall_mem_singleton.mpr (.ofText _)⟩)

theorem written_lastItem :
    Json.Written repeatedAssignments[2].descriptors
      (.list repeatedFields[2].2) := by
  have htext : lastItem.text = repeatedAssignments[2].descriptors := by
    decide +kernel
  have hcontent : lastItem.content = .list repeatedFields[2].2 := by
    simp [lastItem, repeatedFields, Json.Item.ofItems, Json.Item.ofFields,
      Json.Item.ofText, Json.fieldValue, Value.ofFields, Value.assign]
  rw [← htext, ← hcontent, ← Json.Item.IsWritten]
  refine .ofItems (by decide) (List.forall_mem_cons.mpr
    ⟨Json.Written.name List.mem_cons_self, List.forall_mem_cons.mpr ⟨.ofText _,
      List.forall_mem_singleton.mpr ?_⟩⟩)
  exact .ofFields (by decide) (List.forall_mem_singleton.mpr
    (.ofFields (by decide) (by simp)))

theorem writtenFor_repeated :
    List.Forall₂ WrittenFor repeatedAssignments repeatedFields := by
  have hcoded : Json.StringOf "\\u0061".toList "a" :=
    ⟨[.code '0' '0' '6' '1' 0x61 rfl rfl rfl], rfl, rfl⟩
  have hnone : Json.Written "[ ]".toList (.list []) :=
    @Json.Item.IsWritten.ofItems [' '] [] (by decide) (by simp)
  exact .cons ⟨⟨rfl, rfl, by decide, .string hcoded⟩, rfl, rfl, by decide,
    written_firstItem⟩
    (.cons ⟨⟨rfl, rfl, by decide, .string (Json.stringOf_written "b\"] = [];")⟩,
      rfl, rfl, by decide, hnone⟩
    (.cons ⟨⟨rfl, rfl, by decide, .string (Json.stringOf_written "a")⟩,
      rfl, rfl, by decide, written_lastItem⟩ .nil))

theorem referencesReadable_repeated :
    ∀ field ∈ repeatedFields, ∀ descriptor ∈ field.2,
      Markup.ReferencesReadable (markupGiven descriptor).toList := by
  have hlength : ∀ field ∈ repeatedFields, ∀ descriptor ∈ field.2,
      (Markup.blankTags (markupGiven descriptor).toList).length ≤
        Value.digitLimit := by
    decide +kernel
  exact fun field hfield descriptor hdescriptor =>
    Markup.referencesReadable_of_length_le
      (hlength field hfield descriptor hdescriptor)

/-- A script is refused when it lacks the word every script holds, or when a
literal of one of its assignments is no JSON.  Otherwise it is read as what its
assignments say. -/
theorem read_fails_iff (text traitName source : String)
    (hlimits : ∀ assignment ∈ assignments text.toList,
      assignment.WithinLimits) :
    ((∃ fault, read text traitName source = .error fault) ↔
      ¬marker <:+: text.toList ∨ ∃ assignment ∈ assignments text.toList,
        ¬assignment.Valid) ∧
    (∀ fault, read text traitName source = .error fault → ∃ cause,
      fault = .format cause) ∧
    ∀ fragment, read text traitName source = .ok fragment →
      ∃ fields, List.Forall₂ StandsFor (assignments text.toList) fields ∧
        ∃ crates, CratesOf traitName fields crates ∧
          fragment = Fragment.ofTexts crates (.text source) := by
  have hread := exists_read_of_valid traitName source hlimits
  refine ⟨⟨?_, ?_⟩, fun fault => format_of_read hlimits, ?_⟩
  · rintro ⟨fault, hfault⟩
    by_contra hnone
    push Not at hnone
    obtain ⟨hmarker, hvalid⟩ := hnone
    obtain ⟨fields, -, crates, -, hok⟩ := hread hmarker hvalid
    rw [hok] at hfault
    cases hfault
  · intro hrefused
    cases houtcome : read text traitName source with
    | error fault => exact ⟨fault, rfl⟩
    | ok fragment =>
        obtain ⟨hmarker, hvalid⟩ := marked_and_valid_of_read houtcome
        obtain hunmarked | ⟨assignment, hassignment, hinvalid⟩ := hrefused
        · exact absurd hmarker hunmarked
        · exact absurd (hvalid assignment hassignment) hinvalid
  · intro fragment hfragment
    obtain ⟨hmarker, hvalid⟩ := marked_and_valid_of_read hfragment
    obtain ⟨fields, hstands, crates, hcrates, hok⟩ := hread hmarker hvalid
    rw [hok] at hfragment
    exact ⟨fields, hstands, crates, hcrates, (Except.ok.inj hfragment).symm⟩

/-- A script with an assignment over several lines, and two more on one line:
what stands from the first bracket of that line to the last is taken for a list,
and is none. -/
def runOnScript : String :=
  "var implementors\nimplementors[\"a\"]\n=\n[1];\n"
    ++ "implementors[\"b\"] = [\x7d]; implementors[\"c\"] = [];"

def runOnAssignments : List Assignment := [
  ⟨"\"a\"".toList, "[1]".toList⟩,
  ⟨"\"b\"".toList, "[\x7d]; implementors[\"c\"] = []".toList⟩]

theorem assignments_runOnScript :
    assignments runOnScript.toList = runOnAssignments := by
  decide +kernel

theorem malformed_runOn :
    Json.decodeChars "[\x7d]; implementors[\"c\"] = []".toList =
    .error (.malformed ⟨.value, 1, 2, 1⟩) := by
  cbv

theorem withinLimits_runOn :
    ∀ assignment ∈ assignments runOnScript.toList, assignment.WithinLimits := by
  have hfirst : StandsFor ⟨"\"a\"".toList, "[1]".toList⟩ ("a", [.int 1]) :=
    ⟨by cbv, by cbv⟩
  have hname : Json.decodeChars "\"b\"".toList = .ok (.text "b") := by cbv
  rw [assignments_runOnScript]
  refine List.forall_mem_cons.mpr ⟨hfirst.withinLimits ?_, ?_⟩
  · exact List.forall_mem_singleton.mpr ⟨[], rfl⟩
  · refine List.forall_mem_singleton.mpr ⟨?_, ?_, ?_⟩
    · intro fault hfault
      rw [hname] at hfault
      cases hfault
    · intro fault hfault
      rw [malformed_runOn] at hfault
      cases hfault
    · intro list hlist
      rw [malformed_runOn] at hlist
      cases hlist

theorem read_fails_runOn :
    (∀ assignment ∈ assignments runOnScript.toList, assignment.WithinLimits) ∧
      ∃ cause, read runOnScript "Display" "a.js" = .error (.format cause) := by
  obtain ⟨hfails, hformat, -⟩ :=
    read_fails_iff runOnScript "Display" "a.js" withinLimits_runOn
  have hinvalid : ∃ assignment ∈ assignments runOnScript.toList,
      ¬assignment.Valid := by
    rw [assignments_runOnScript]
    refine ⟨_, List.mem_cons_of_mem _ List.mem_cons_self, ?_⟩
    rintro ⟨-, list, hlist⟩
    rw [malformed_runOn] at hlist
    cases hlist
  obtain ⟨fault, hfault⟩ := hfails.mpr (.inr hinvalid)
  obtain ⟨cause, rfl⟩ := hformat fault hfault
  exact ⟨withinLimits_runOn, cause, hfault⟩

end Script

end TraitIndex
