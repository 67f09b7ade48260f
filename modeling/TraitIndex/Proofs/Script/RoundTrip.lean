import TraitIndex.Proofs.Script.Records

/-!
# Scripts written and read

A fragment of records of texts is written as a script that is read without fail,
crate by crate and record by record.  Writing what was read gives the same
script again.  Which records still state the same fact can be told from the
fragment alone.
-/

namespace TraitIndex.Script

/-! ## What is read for what was written -/

/-- A record as it is read for a trait and a crate: the plain text of its markup
is its constraint. -/
def RereadAs (traitName crate : String) (given back : TextRecord) : Prop :=
  ∃ constraint, Markup.plainText given.markup = .ok constraint ∧
    back = given.reread traitName crate constraint

/-- A crate as it is read for a trait: its records, one for one. -/
def CrateRereadAs (traitName : String)
    (given back : String × List TextRecord) : Prop :=
  back.1 = given.1 ∧ List.Forall₂ (RereadAs traitName given.1) given.2 back.2

theorem exists_rereadAs (traitName crate : String) {given : TextRecord}
    (h : Markup.ReferencesReadable given.rendered.toList) :
    ∃ back, RereadAs traitName crate given back := by
  have hplain : ∃ constraint,
      Markup.plainText given.markup = .ok constraint := by
    unfold TextRecord.markup
    split
    · exact ⟨_, Markup.plainText_escape given.plain⟩
    · exact h.exists_plainText
  obtain ⟨constraint, hconstraint⟩ := hplain
  exact ⟨_, constraint, hconstraint, rfl⟩

theorem exists_cratesRereadAs (traitName : String)
    {crates : Assoc String (List TextRecord)}
    (h : ∀ field ∈ crates, ∀ given ∈ field.2,
      Markup.ReferencesReadable given.rendered.toList) :
    ∃ backs, List.Forall₂ (CrateRereadAs traitName) crates backs := by
  apply exists_forall₂
  intro field hfield
  obtain ⟨backs, hbacks⟩ := exists_forall₂ fun given hgiven =>
    exists_rereadAs traitName field.1 (h field hfield given hgiven)
  exact ⟨(field.1, backs), rfl, hbacks⟩

/-! ## Reading a written script -/

section

variable {traitName : String}

theorem standsFor_writtenAssignment (field : String × List TextRecord) :
    StandsFor (writtenAssignment (field.1, field.2.map TextRecord.descriptor))
      (field.1, field.2.map TextRecord.descriptor) where
  crate :=
    (Json.reads_string Json.readsChars_asciiStringChar field.1).decodeChars_eq
  descriptors := (Json.reads_encode_list
    (List.forall_mem_map.mpr fun record _ =>
      record.reads_descriptor)).decodeChars_eq

theorem entryOfAssignment_described {given back : String × List TextRecord}
    (h : CrateRereadAs traitName given back) (source : String) :
    entryOfAssignment traitName source
        (writtenAssignment (given.1, given.2.map TextRecord.descriptor)) =
      .ok (back.1, back.2.map TextRecord.record) := by
  rw [h.1]
  refine entryOfAssignment_eq (standsFor_writtenAssignment given) ?_ source
  apply List.forall₂_map_left_iff.mpr
  apply h.2.imp
  rintro record _ ⟨constraint, hconstraint, rfl⟩
  exact record.recordOfDescriptor_descriptor hconstraint

theorem keys_eq {crates backs : Assoc String (List TextRecord)}
    (h : List.Forall₂ (CrateRereadAs traitName) crates backs) :
    backs.keys = crates.keys := by
  induction h with
  | nil => rfl
  | cons hfield _ ih => exact congrArg₂ List.cons hfield.1 ih

theorem lineFeed_not_mem_described {crates : Assoc String (List TextRecord)} :
    ∀ field ∈ described crates, '\n' ∉ Json.encode (.list field.2) := by
  intro field hfield
  obtain ⟨given, -, rfl⟩ := List.mem_map.mp hfield
  apply lineFeed_not_mem_encode_list
  exact List.forall_mem_map.mpr fun record _ =>
    record.lineFeed_not_mem_encode_descriptor

theorem read_scriptText {crates backs : Assoc String (List TextRecord)}
    (hkeys : crates.keys.Nodup)
    (h : List.Forall₂ (CrateRereadAs traitName) crates backs)
    (source : String) :
    read (String.ofList (scriptText (described crates))) traitName source =
      .ok (Fragment.ofTexts backs (.text source)) := by
  have hentries :
      (assignments (String.ofList (scriptText (described crates))).toList).mapM
      (entryOfAssignment traitName source) =
        .ok (backs.map fun back => (back.1, back.2.map TextRecord.record)) := by
    rw [String.toList_ofList, assignments_scriptText lineFeed_not_mem_described,
      described, List.map_map, List.mapM_map]
    apply mapM_eq_ok_of_forall₂
    apply List.forall₂_map_right_iff.mpr
    exact h.imp fun given back hback => entryOfAssignment_described hback source
  have hmarker : Text.contains marker
      (String.ofList (scriptText (described crates))).toList = true := by
    rw [String.toList_ofList, contains_marker_scriptText]
  have hbacks : backs.keys.Nodup := keys_eq h ▸ hkeys
  rw [read_eq_ofTexts hmarker hentries, Assoc.ofList_of_nodup hbacks]

/-! ## Writing again -/

theorem descriptor_reread (given : TextRecord) (crate constraint : String) :
    (given.reread traitName crate constraint).descriptor =
      given.descriptor := by
  have hmarkup : (given.reread traitName crate constraint).markup =
      given.markup :=
    if_neg given.markup_ne_empty
  rw [TextRecord.descriptor, hmarkup]
  rfl

theorem map_descriptor_eq {crate : String} {given backs : List TextRecord}
    (h : List.Forall₂ (RereadAs traitName crate) given backs) :
    backs.map TextRecord.descriptor = given.map TextRecord.descriptor := by
  induction h with
  | nil => rfl
  | cons hrecord _ ih =>
      obtain ⟨constraint, -, rfl⟩ := hrecord
      rw [List.map_cons, List.map_cons, descriptor_reread, ih]

theorem described_eq {crates backs : Assoc String (List TextRecord)}
    (h : List.Forall₂ (CrateRereadAs traitName) crates backs) :
    described backs = described crates := by
  induction h with
  | nil => rfl
  | cons hcrate _ ih =>
      obtain ⟨hname, hrecords⟩ := hcrate
      simp only [described, List.map_cons] at ih ⊢
      rw [hname, map_descriptor_eq hrecords, ih]

end

/-! ## Both ways -/

/-- What a record and the record read for it have in common. -/
structure Restates (traitName crate : String) (given back : TextRecord) :
    Prop where
  traitName_eq : back.traitName = traitName
  owningCrate_eq : back.owningCrate = crate
  implementingType_eq : back.implementingType = given.implementingType
  synthetic_eq : back.synthetic = given.synthetic
  rendered_eq : given.rendered ≠ "" → back.rendered = given.rendered

theorem RereadAs.restates {traitName crate : String} {given back : TextRecord}
    (h : RereadAs traitName crate given back) :
    Restates traitName crate given back := by
  obtain ⟨constraint, -, rfl⟩ := h
  exact ⟨rfl, rfl, rfl, rfl, fun hne => if_neg hne⟩

/-- Reading undoes writing, and writing again gives the same script. -/
theorem read_write (crates : Assoc String (List TextRecord)) (source : Value)
    (traitName fragmentId : String) (hkeys : crates.keys.Nodup)
    (hreadable : ∀ field ∈ crates, ∀ given ∈ field.2,
      Markup.ReferencesReadable given.rendered.toList) :
    ∃ script backs, write (Fragment.ofTexts crates source) = .ok script ∧
      read script traitName fragmentId =
        .ok (Fragment.ofTexts backs (.text fragmentId)) ∧
      List.Forall₂ (fun given back => back.1 = given.1 ∧
        List.Forall₂ (Restates traitName given.1) given.2 back.2) crates backs ∧
      write (Fragment.ofTexts backs (.text fragmentId)) = .ok script := by
  obtain ⟨backs, hbacks⟩ := exists_cratesRereadAs traitName hreadable
  refine ⟨_, backs, write_ofTexts crates source,
    read_scriptText hkeys hbacks fragmentId, ?_, ?_⟩
  · exact hbacks.imp fun given back h =>
      ⟨h.1, h.2.imp fun _ _ hrecord => hrecord.restates⟩
  · rw [write_ofTexts, described_eq hbacks]

/-- Texts that look like lines of a script, like markup and like references. -/
def trickyCrates : Assoc String (List TextRecord) := [
  ("a\"b\\", [
    { traitName := "core::fmt::Display", implementingType := "a::T"
      owningCrate := "a\"b\\", constraintText := "T: Into<&lt;>"
      synthetic := false, rendered := "" },
    { traitName := "core::fmt::Debug", implementingType := "a::U"
      owningCrate := "b", constraintText := " ", synthetic := true
      rendered := "<a>x</a>\nimplementors[\"c\"] = [];&#39;" }]),
  ("\u2028é", [])]

theorem referencesReadable_tricky : ∀ field ∈ trickyCrates, ∀ given ∈ field.2,
    Markup.ReferencesReadable given.rendered.toList := by
  have hlength : ∀ field ∈ trickyCrates, ∀ given ∈ field.2,
      (Markup.blankTags given.rendered.toList).length ≤
        Value.digitLimit := by decide
  exact fun field hfield given hgiven =>
    Markup.referencesReadable_of_length_le (hlength field hfield given hgiven)

theorem read_write_tricky :
    trickyCrates.keys.Nodup ∧
      ∃ script backs, write (Fragment.ofTexts trickyCrates .null) = .ok script ∧
        read script "Display" "a.js" =
          .ok (Fragment.ofTexts backs (.text "a.js")) ∧
        List.Forall₂ (fun given back => back.1 = given.1 ∧
          List.Forall₂ (Restates "Display" given.1) given.2 back.2)
            trickyCrates backs ∧
        write (Fragment.ofTexts backs (.text "a.js")) = .ok script := by
  have hkeys : trickyCrates.keys.Nodup := by decide
  exact ⟨hkeys, read_write trickyCrates .null "Display" "a.js" hkeys
    referencesReadable_tricky⟩

/-- What a record must be like to come back as the same fact. -/
structure KeepsIdentity (traitName crate : String) (given : TextRecord) :
    Prop where
  traitName_eq : given.traitName = traitName
  owningCrate_eq : given.owningCrate = crate
  shown : given.rendered ≠ "" → Markup.plainText given.rendered =
    .ok given.constraintText
  plain : given.rendered = "" →
    given.constraintText ≠ "" ∧ Markup.Clean given.constraintText.toList

/-- The statement of a record without a constraint never closes up to
nothing. -/
theorem closeUp_plain_ne_nil {given : TextRecord}
    (h : given.constraintText = "") :
    Markup.closeUp given.plain.toList ≠ [] := by
  have hletter : 'i' ∈ given.plain.toList := by
    rw [TextRecord.plain, if_pos h]
    simp
  exact List.ne_nil_of_mem (Markup.mem_closeUp (by decide) hletter)

theorem plainText_markup_eq_iff (given : TextRecord) :
    Markup.plainText given.markup = .ok given.constraintText ↔
      (given.rendered ≠ "" → Markup.plainText given.rendered =
          .ok given.constraintText) ∧
        (given.rendered = "" →
          given.constraintText ≠ "" ∧
            Markup.Clean given.constraintText.toList) := by
  by_cases hrendered : given.rendered = ""
  · have hmarkup :
        given.markup = String.ofList (Markup.escape given.plain.toList) :=
      if_pos hrendered
    rw [hmarkup, Markup.plainText_escape, Except.ok.injEq, String.ext_iff,
      String.toList_ofList]
    simp only [hrendered, ne_eq, not_true_eq_false, false_implies, true_implies,
      true_and]
    by_cases hconstraint : given.constraintText = ""
    · have hne := closeUp_plain_ne_nil hconstraint
      simp [hconstraint, hne]
    · have hplain : given.plain = given.constraintText := if_neg hconstraint
      rw [hplain, Markup.closeUp_eq_iff]
      simp [hconstraint]
  · have hmarkup : given.markup = given.rendered := if_neg hrendered
    simp [hmarkup, hrendered]

theorem RereadAs.identity?_eq_iff {traitName crate : String}
    {given back : TextRecord} (h : RereadAs traitName crate given back) :
    back.record.identity? = given.record.identity? ↔
      KeepsIdentity traitName crate given := by
  obtain ⟨constraint, hconstraint, rfl⟩ := h
  have hback : (given.reread traitName crate constraint).record.identity? =
      some ⟨traitName, crate, given.implementingType, constraint⟩ := rfl
  have hgiven : given.record.identity? =
      some ⟨given.traitName, given.owningCrate, given.implementingType,
        given.constraintText⟩ := rfl
  have hplain : constraint = given.constraintText ↔
      Markup.plainText given.markup = .ok given.constraintText := by
    rw [hconstraint, Except.ok.injEq]
  rw [hback, hgiven, Option.some.injEq, Identity.mk.injEq, hplain,
    plainText_markup_eq_iff]
  constructor
  · rintro ⟨htrait, hcrate, -, hshown, hclean⟩
    exact ⟨htrait.symm, hcrate.symm, hshown, hclean⟩
  · rintro ⟨htrait, hcrate, hshown, hclean⟩
    exact ⟨htrait.symm, hcrate.symm, rfl, hshown, hclean⟩

/-- Exactly the records that are read for their own trait and crate, and whose
markup says what they state, come back as the same fact.  Escaped text that is
clean comes back as it was. -/
theorem identities_read_back (crates : Assoc String (List TextRecord))
    (source : Value) (traitName fragmentId : String) (hkeys : crates.keys.Nodup)
    (hreadable : ∀ field ∈ crates, ∀ given ∈ field.2,
      Markup.ReferencesReadable given.rendered.toList) :
    (∃ script backs, write (Fragment.ofTexts crates source) = .ok script ∧
      read script traitName fragmentId =
        .ok (Fragment.ofTexts backs (.text fragmentId)) ∧
      List.Forall₂ (fun given back => back.1 = given.1 ∧
        List.Forall₂ (fun record again =>
          again.record.identity? = record.record.identity? ↔
            KeepsIdentity traitName given.1 record) given.2 back.2)
              crates backs) ∧
    ∀ text : String, Markup.Clean text.toList →
      Markup.plainText (String.ofList (Markup.escape text.toList)) =
        .ok text := by
  constructor
  · obtain ⟨backs, hbacks⟩ := exists_cratesRereadAs traitName hreadable
    refine ⟨_, backs, write_ofTexts crates source,
      read_scriptText hkeys hbacks fragmentId, ?_⟩
    exact hbacks.imp fun given back h =>
      ⟨h.1, h.2.imp fun _ _ hrecord => hrecord.identity?_eq_iff⟩
  · intro text hclean
    rw [Markup.plainText_escape, Markup.closeUp_eq_iff.mpr hclean,
      String.ofList_toList]

theorem identities_read_back_tricky :
    trickyCrates.keys.Nodup ∧
      (∃ script backs, write (Fragment.ofTexts trickyCrates .null) =
          .ok script ∧
        read script "core::fmt::Display" "a.js" =
          .ok (Fragment.ofTexts backs (.text "a.js")) ∧
        List.Forall₂ (fun given back => back.1 = given.1 ∧
          List.Forall₂ (fun record again =>
            again.record.identity? = record.record.identity? ↔
              KeepsIdentity "core::fmt::Display" given.1 record) given.2 back.2)
          trickyCrates backs) := by
  have hkeys : trickyCrates.keys.Nodup := by decide
  exact ⟨hkeys, (identities_read_back trickyCrates .null "core::fmt::Display"
    "a.js" hkeys
    referencesReadable_tricky).1⟩

end TraitIndex.Script
