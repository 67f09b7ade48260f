import TraitIndex.Proofs.Bundle.Faults
import TraitIndex.Proofs.Script.Records

/-!
# What is read from a file

A fragment that is read from a file carries its name, and holds lists of records
whose fields are texts, whatever the file says.
-/

namespace TraitIndex

theorem exists_map_of_mapM {α β γ ε : Type} {step : α → Except ε β}
    (embed : γ → β) (holds : γ → Prop)
    (hstep : ∀ item result, step item = .ok result → ∃ kept,
      result = embed kept ∧ holds kept)
    {items : List α} {results : List β} (h : items.mapM step = .ok results) :
    ∃ kept : List γ, results = kept.map embed ∧ ∀ each ∈ kept, holds each := by
  induction items generalizing results with
  | nil =>
      exact ⟨[], (Except.ok.inj h).symm, fun _ hnil =>
        absurd hnil List.not_mem_nil⟩
  | cons item rest ih =>
      rw [List.mapM_cons] at h
      obtain ⟨result, hresult, h⟩ := exists_of_bind_eq_ok h
      obtain ⟨others, hothers, h⟩ := exists_of_bind_eq_ok h
      obtain ⟨kept, rfl, hkept⟩ := hstep item result hresult
      obtain ⟨keptOthers, rfl, hkeptOthers⟩ := ih hothers
      exact ⟨kept :: keptOthers, (Except.ok.inj h).symm,
        List.forall_mem_cons.mpr
        ⟨hkept, hkeptOthers⟩⟩

theorem eq_ok_of_liftValue {α : Type} {result : Except ValueFault α} {value : α}
    (h : liftValue result = .ok value) : result = .ok value := by
  cases result with
  | ok other => exact congrArg Except.ok (Except.ok.inj h)
  | error fault => cases h

namespace Script

/-- A record as a script for a trait gives it under a crate: its markup says
what its constraint is. -/
structure ReadFor (traitName crate : String) (given : TextRecord) : Prop where
  traitName_eq : given.traitName = traitName
  owningCrate_eq : given.owningCrate = crate
  plainText_rendered : Markup.plainText given.rendered =
    .ok given.constraintText

theorem exists_textRecord_of_descriptor {traitName crate : String}
    {descriptor : Value} {record : Record}
    (h : recordOfDescriptor traitName crate descriptor = .ok record) :
    ∃ given : TextRecord, record = given.record ∧
      ReadFor traitName crate given := by
  unfold recordOfDescriptor at h
  split at h
  · next fields =>
      obtain ⟨implementingType, -, h⟩ := exists_of_bind_eq_ok h
      obtain ⟨rendered, -, h⟩ := exists_of_bind_eq_ok h
      obtain ⟨constraint, hconstraint, h⟩ := exists_of_bind_eq_ok h
      exact ⟨⟨traitName, implementingType, crate, constraint,
        (Value.fieldOrNull fields "synthetic").isTruthy, rendered⟩,
        (Except.ok.inj h).symm, rfl, rfl, hconstraint⟩
  · exact ⟨⟨traitName, "", crate, "", false, ""⟩, (Except.ok.inj h).symm, rfl,
      rfl, rfl⟩

theorem exists_texts_of_assignment {traitName source : String}
    {assignment : Assignment} {entry : String × List Record}
    (h : entryOfAssignment traitName source assignment = .ok entry) :
    ∃ field : String × List TextRecord,
        entry = (field.1, field.2.map TextRecord.record) ∧
      ∀ given ∈ field.2, ReadFor traitName field.1 given := by
  obtain ⟨crate, -, h⟩ := exists_of_bind_eq_ok h
  obtain ⟨list, -, h⟩ := exists_of_bind_eq_ok h
  obtain ⟨descriptors, -, h⟩ := exists_of_bind_eq_ok h
  obtain ⟨records, hrecords, h⟩ := exists_of_bind_eq_ok h
  obtain ⟨given, rfl, hgiven⟩ := exists_map_of_mapM TextRecord.record _
    (fun descriptor record hrecord =>
      exists_textRecord_of_descriptor (eq_ok_of_liftValue hrecord)) hrecords
  exact ⟨(crate.toText, given), (Except.ok.inj h).symm, hgiven⟩

theorem exists_texts_of_read {text traitName source : String}
    {fragment : Fragment} (h : read text traitName source = .ok fragment) :
    ∃ crates, fragment = Fragment.ofTexts crates (.text source) ∧
        crates.keys.Nodup ∧
      ∀ field ∈ crates, ∀ given ∈ field.2, ReadFor traitName field.1 given := by
  unfold read at h
  split at h
  · cases h
  · obtain ⟨entries, hentries, h⟩ := exists_of_bind_eq_ok h
    obtain ⟨crates, rfl, hcrates⟩ := exists_map_of_mapM
      (fun field : String × List TextRecord =>
        (field.1, field.2.map TextRecord.record)) _
      (fun _ _ => exists_texts_of_assignment) hentries
    refine ⟨Assoc.ofList crates,
      (Except.ok.inj h).symm.trans (Fragment.ofRecords_texts crates source),
      Assoc.nodup_keys_ofList crates, ?_⟩
    exact fun field hfield => hcrates field (Assoc.mem_of_mem_ofList hfield)

end Script

namespace Structured

theorem exists_textRecord_of_descriptor {crate defaultTrait : String}
    {descriptor : Value} {record : Record}
    (h : recordOfDescriptor crate defaultTrait descriptor = .ok record) :
    ∃ given : TextRecord, record = given.record := by
  unfold recordOfDescriptor at h
  split at h
  · next fields =>
      obtain ⟨traitName, -, h⟩ := exists_of_bind_eq_ok h
      obtain ⟨implementingType, -, h⟩ := exists_of_bind_eq_ok h
      obtain ⟨owningCrate, -, h⟩ := exists_of_bind_eq_ok h
      obtain ⟨constraint, -, h⟩ := exists_of_bind_eq_ok h
      obtain ⟨rendered, -, h⟩ := exists_of_bind_eq_ok h
      exact ⟨⟨traitName, implementingType, owningCrate, constraint,
        (Value.fieldOrNull fields "synthetic").isTruthy, rendered⟩,
        (Except.ok.inj h).symm⟩
  · exact ⟨⟨"", "", crate, "", false, ""⟩, (Except.ok.inj h).symm⟩

theorem exists_texts_of_field {defaultTrait : String} {field : Value × Value}
    {entry : String × List Record}
    (h : entryOfField defaultTrait field = .ok entry) :
    ∃ kept : String × List TextRecord,
      entry = (kept.1, kept.2.map TextRecord.record) := by
  obtain ⟨crate, -, h⟩ := exists_of_bind_eq_ok h
  obtain ⟨records, hrecords, h⟩ := exists_of_bind_eq_ok h
  obtain ⟨given, rfl, -⟩ := exists_map_of_mapM TextRecord.record (fun _ => True)
    (fun _ _ hrecord => by simpa using exists_textRecord_of_descriptor hrecord)
      hrecords
  exact ⟨(crate, given), (Except.ok.inj h).symm⟩

theorem exists_texts_of_read {text source format : String} {fragment : Fragment}
    (h : read text source format = .ok fragment) :
    ∃ crates, fragment = Fragment.ofTexts crates (.text source) := by
  obtain ⟨document, -, h⟩ := exists_of_bind_eq_ok h
  unfold ofValue at h
  split at h
  · obtain ⟨entries, hentries, h⟩ := exists_of_bind_eq_ok h
    obtain ⟨crates, rfl, -⟩ := exists_map_of_mapM
      (fun field : String × List TextRecord =>
        (field.1, field.2.map TextRecord.record))
      (fun _ => True)
      (fun _ _ hentry => by simpa using exists_texts_of_field hentry)
      (eq_ok_of_liftValue hentries)
    exact ⟨_, (Except.ok.inj h).symm.trans
      (Fragment.ofRecords_texts crates source)⟩
  · cases h

end Structured

namespace Bundle

/-- A fragment file that can be read holds records of texts, and is known by its
name. -/
theorem exists_texts_of_readFragment [Host] {tree : FileTree} {path root : Path}
    {fragment : Fragment}
    (h : readFragment tree path root = .ok fragment) :
    ∃ name crates, fragmentName path (some root) = .ok name ∧
      fragment = Fragment.ofTexts crates (.text name) := by
  unfold readFragment at h
  split at h
  · next hstructured =>
      unfold readStructured at h
      rw [hstructured] at h
      obtain ⟨name, hname, h⟩ := exists_of_bind_eq_ok h
      obtain ⟨text, -, h⟩ := exists_of_bind_eq_ok h
      obtain ⟨crates, hcrates⟩ := Structured.exists_texts_of_read h
      exact ⟨name, crates, hname, hcrates⟩
  · obtain ⟨name, hname, h⟩ := exists_of_bind_eq_ok h
    obtain ⟨text, -, h⟩ := exists_of_bind_eq_ok h
    obtain ⟨crates, hcrates, -⟩ := Script.exists_texts_of_read h
    exact ⟨name, crates, hname, hcrates⟩

end Bundle

end TraitIndex
