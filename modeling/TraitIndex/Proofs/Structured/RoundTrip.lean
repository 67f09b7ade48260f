import TraitIndex.Proofs.Registry.Merging
import TraitIndex.Proofs.Registry.TextRecords
import TraitIndex.Structured.Read
import TraitIndex.Structured.Write

/-!
# Structured data, dumped and read

A fragment of records of texts is dumped without fail, and what was dumped is
read back crate by crate and record by record.  The data neither names owning
crates nor keeps markup.  So a record comes back owned by the crate it is listed
under, and is otherwise as it was.
-/

namespace TraitIndex

namespace TextRecord

def dumped (given : TextRecord) : Structured.Descriptor where
  traitName := .text given.traitName
  implementingType := .text given.implementingType
  constraintText := .text given.constraintText
  synthetic := .bool given.synthetic

/-- The record that is read under a crate for what was dumped. -/
def reloaded (crate : String) (given : TextRecord) : TextRecord :=
  { given with
    owningCrate := crate
    rendered := "" }

variable (given : TextRecord) (crate : String)

@[simp] theorem dumped_reloaded :
    (given.reloaded crate).dumped = given.dumped := rfl

@[simp] theorem isIncomplete_reloaded :
    (given.reloaded crate).isIncomplete = given.isIncomplete := rfl

theorem identity_reloaded (h : given.owningCrate = crate) :
    (given.reloaded crate).identity = given.identity := by
  rw [reloaded, ← h]
  rfl

/-- A record comes back equal when it was owned by the crate it is listed under,
and only then. -/
theorem equals_reloaded_iff :
    (given.reloaded crate).record.equals given.record = true ↔
      given.owningCrate = crate := by
  have htext (a b : String) : (Value.text a).equals (.text b) = (a == b) := by
    rw [Value.equals]
  have hsynthetic :
      (Value.bool given.synthetic).equals (.bool given.synthetic) = true := by
    simp [Value.equals, Value.equals.equalsWhole, Value.whole?]
  simp only [Record.equals, record, reloaded, htext, hsynthetic,
    beq_self_eq_true, Bool.true_and, Bool.and_true, beq_iff_eq]
  exact eq_comm

end TextRecord

namespace Structured

/-! ## Dumping -/

theorem descriptorsOfEntry_texts (records : List TextRecord) :
    descriptorsOfEntry
      (.listed (records.map fun given => .record given.record)) =
      .ok (records.map TextRecord.dumped) := by
  change (records.map fun given => Element.record given.record).mapM
    descriptorOfElement = _
  rw [List.mapM_map]
  exact mapM_eq_ok_map fun given _ => rfl

theorem toData_ofTexts (crates : Assoc String (List TextRecord))
    (source : Value) :
    toData (Fragment.ofTexts crates source) =
      .ok (crates.map fun field =>
        (field.1, field.2.map TextRecord.dumped)) := by
  unfold toData Fragment.ofTexts Entries.crates
  simp only [bind, Except.bind]
  rw [List.mapM_map]
  apply mapM_eq_ok_map
  intro field _
  simp only [Function.comp_apply, descriptorsOfEntry_texts]
  rfl

/-! ## Reading what was dumped -/

/-- A field that holds a text is read as this text, also when it is empty. -/
theorem textOr_of_text {fields : List (Value × Value)} {name text : String}
    (h : Value.fieldOrNull fields name = .text text) :
    textOr fields name "" = .ok text := by
  unfold textOr
  rw [h]
  by_cases hempty : text = ""
  · rw [hempty]
    rfl
  · have htruthy : (Value.text text).isTruthy = true :=
      TextRecord.isTruthy_text.mpr hempty
    rw [if_pos htruthy]
    rfl

theorem recordOfDescriptor_dumped (given : TextRecord) (crate : String) :
    recordOfDescriptor crate "" given.dumped.toValue =
      .ok (given.reloaded crate).record := by
  unfold recordOfDescriptor Descriptor.toValue
  generalize hfields : [(Value.text "trait", given.dumped.traitName),
    (.text "type", given.dumped.implementingType),
    (.text "where", given.dumped.constraintText),
    (.text "synthetic", given.dumped.synthetic)] = fields
  have htrait : textOr fields "trait" "" = .ok given.traitName :=
    textOr_of_text (hfields ▸ rfl)
  have htype : textOr fields "type" "" = .ok given.implementingType :=
    textOr_of_text (hfields ▸ rfl)
  have hcrate : textOr fields "crate" crate = .ok crate := by
    rw [← hfields]
    rfl
  have hconstraint : textOr fields "where" "" = .ok given.constraintText :=
    textOr_of_text (hfields ▸ rfl)
  have hrendered : textOr fields "text" "" = .ok "" := by
    rw [← hfields]
    rfl
  have hsynthetic : Value.fieldOrNull fields "synthetic" =
      .bool given.synthetic := by
    rw [← hfields]
    rfl
  simp only [htrait, htype, hcrate, hconstraint, hrendered, hsynthetic, bind,
    Except.bind]
  rfl

theorem entryOfField_dumped (crate : String) (records : List TextRecord) :
    entryOfField ""
      (.text crate, .list ((records.map TextRecord.dumped).map (·.toValue))) =
      .ok (crate, (records.map (·.reloaded crate)).map TextRecord.record) := by
  have hcrate : (Value.text crate).printed = .ok crate := rfl
  have hrecords : ((records.map TextRecord.dumped).map (·.toValue)).mapM
      (recordOfDescriptor crate "") =
        .ok ((records.map (·.reloaded crate)).map TextRecord.record) := by
    rw [List.map_map, List.mapM_map, List.map_map]
    exact mapM_eq_ok_map fun given _ => recordOfDescriptor_dumped given crate
  unfold entryOfField descriptorsOf
  simp only [hcrate, hrecords, bind, Except.bind]
  rfl

def reloaded (crates : Assoc String (List TextRecord)) :
    Assoc String (List TextRecord) :=
  crates.map fun field => (field.1, field.2.map (·.reloaded field.1))

theorem ofValue_documentOf {crates : Assoc String (List TextRecord)}
    (hkeys : crates.keys.Nodup) (source : String) :
    ofValue (documentOf
      (crates.map fun field => (field.1, field.2.map TextRecord.dumped)))
        source "" =
      .ok (Fragment.ofTexts (reloaded crates) (.text source)) := by
  have hentries :
      ((crates.map fun field => (field.1, field.2.map TextRecord.dumped)).map
      fun field => (Value.text field.1, .list (field.2.map (·.toValue)))).mapM
        (entryOfField "") =
        .ok ((reloaded crates).map fun field =>
          (field.1, field.2.map TextRecord.record)) := by
    rw [List.map_map, List.mapM_map, reloaded, List.map_map]
    exact mapM_eq_ok_map fun field _ => entryOfField_dumped field.1 field.2
  have hreloaded : (reloaded crates).keys.Nodup := by
    rw [Assoc.keys, reloaded, List.map_map]
    exact hkeys
  unfold ofValue documentOf
  simp only [hentries]
  change Except.ok (Fragment.ofRecords (Assoc.ofList _) source) = _
  rw [Fragment.ofRecords_texts, Assoc.ofList_of_nodup hreloaded]

/-! ## Both ways -/

/-- What was dumped can be dumped again: reading it loses nothing more. -/
theorem toData_reloaded (crates : Assoc String (List TextRecord))
    (source again : Value) :
    toData (Fragment.ofTexts (reloaded crates) again) =
      toData (Fragment.ofTexts crates source) := by
  rw [toData_ofTexts, toData_ofTexts, reloaded, List.map_map]
  congr 1
  apply List.map_congr_left
  intro field _
  simp [Function.comp_def]

/-- A copy of records under their own crates brings nothing new. -/
theorem merge_reloaded (registry : Registry)
    {crates : Assoc String (List TextRecord)}
    (source again : Value) (howned : ∀ field ∈ crates, ∀ given ∈ field.2,
      given.owningCrate = field.1) :
    let first :=
      (registry.merge (.fragment (Fragment.ofTexts crates source))).registry
    let second :=
      first.merge (.fragment (Fragment.ofTexts (reloaded crates) again))
    second.report.added = 0 ∧ second.registry = first.absorb second.report := by
  intro first second
  apply Registry.merge_of_seen
  intro fact hfact
  obtain ⟨_, hcopied, _, hcopy, hcomplete, hidentity⟩ :=
    (Payload.mem_identities_ofTexts ..).mp (List.mem_map_of_mem hfact)
  obtain ⟨field, hfield, rfl⟩ := List.mem_map.mp hcopied
  obtain ⟨given, hgiven, rfl⟩ := List.mem_map.mp hcopy
  rw [given.isIncomplete_reloaded] at hcomplete
  rw [given.identity_reloaded field.1 (howned field hfield given hgiven)]
    at hidentity
  have hstated := (Payload.mem_identities_ofTexts crates source).mpr
    ⟨field, hfield, given, hgiven, hcomplete, hidentity⟩
  exact registry.mem_seen_of_stated hstated

/-- What a dump keeps of a fragment.  The crates and the number and order of
their records stay; a record comes back owned by the crate it is listed under,
so that exactly those come back equal that were.  Dumping what was read gives
the same data, and where every record is owned by its crate the copy adds
nothing to a registry that has merged the fragment. -/
theorem ofValue_toData (crates : Assoc String (List TextRecord))
    (source : Value) (fragmentId : String) (hkeys : crates.keys.Nodup) :
    ∃ data, toData (Fragment.ofTexts crates source) = .ok data ∧
      ofValue (documentOf data) fragmentId "" =
        .ok (Fragment.ofTexts (reloaded crates) (.text fragmentId)) ∧
      toData (Fragment.ofTexts (reloaded crates) (.text fragmentId)) =
        .ok data ∧
      (∀ field ∈ crates, ∀ given ∈ field.2,
          (given.reloaded field.1).owningCrate = field.1 ∧
        ((given.reloaded field.1).record.equals given.record = true ↔
          given.owningCrate = field.1)) ∧
      ((∀ field ∈ crates, ∀ given ∈ field.2, given.owningCrate = field.1) →
        ∀ registry : Registry,
          let first :=
            (registry.merge
              (.fragment (Fragment.ofTexts crates source))).registry
          let second := first.merge
            (.fragment (Fragment.ofTexts (reloaded crates) (.text fragmentId)))
          second.report.added = 0 ∧
            second.registry = first.absorb second.report) := by
  refine ⟨_, toData_ofTexts crates source, ofValue_documentOf hkeys fragmentId,
    ?_, ?_, ?_⟩
  · rw [toData_reloaded crates source, toData_ofTexts]
  · exact fun field _ given _ => ⟨rfl, given.equals_reloaded_iff field.1⟩
  · exact fun howned registry => merge_reloaded registry source _ howned

def mixedCrates : Assoc String (List TextRecord) := [
  ("core", [
    { traitName := "Display", implementingType := "Foo", owningCrate := "core"
      constraintText := "", synthetic := true, rendered := "<a>Foo</a>" },
    { traitName := "Display", implementingType := "Bar", owningCrate := "alloc"
      constraintText := "T: Copy", synthetic := false, rendered := "" }]),
  ("", [])]

theorem ofValue_toData_mixed :
    mixedCrates.keys.Nodup ∧
      ∃ data, toData (Fragment.ofTexts mixedCrates .null) = .ok data ∧
        ofValue (documentOf data) "a.json" "" =
          .ok (Fragment.ofTexts (reloaded mixedCrates) (.text "a.json")) ∧
        ∀ field ∈ mixedCrates, ∀ given ∈ field.2,
            (given.reloaded field.1).owningCrate = field.1 ∧
          ((given.reloaded field.1).record.equals given.record = true ↔
            given.owningCrate = field.1) := by
  have hkeys : mixedCrates.keys.Nodup := by decide
  obtain ⟨data, hdata, hread, -, hequals, -⟩ :=
    ofValue_toData mixedCrates .null "a.json" hkeys
  exact ⟨hkeys, data, hdata, hread, hequals⟩

end Structured

end TraitIndex
