import TraitIndex.Proofs.Markup.NormalForm
import TraitIndex.Proofs.Script.Rereading
import TraitIndex.Proofs.Structured.RoundTrip

/-!
# Constraints without their markup

A dump keeps the constraint of a record and drops the markup it was read from.
A script that is written from the dump shows the constraint as escaped text, and
what is read from that is the same constraint unless three colons stand in it
before a space.
-/

namespace TraitIndex.Script

variable {traitName crate : String} {given back : TextRecord}

/-- A record that was read from a script, and comes back from one written
without its markup. -/
theorem ReadFor.constraintText_reloaded_iff (h : ReadFor traitName crate given)
    (hback : RereadAs traitName crate (given.reloaded crate) back)
    (hconstraint : given.constraintText ≠ "") :
    back.constraintText = given.constraintText ↔
      ¬[':', ':', ':', ' '] <:+: given.constraintText.toList := by
  obtain ⟨constraint, hplain, rfl⟩ := hback
  have hmarkup : (given.reloaded crate).markup =
      String.ofList (Markup.escape given.constraintText.toList) := by
    have hshown : (given.reloaded crate).plain = given.constraintText :=
      if_neg hconstraint
    rw [← hshown]
    exact if_pos rfl
  rw [hmarkup] at hplain
  rw [← Markup.plainText_escape_iff h.plainText_rendered, hplain,
    Except.ok.injEq]
  rfl

theorem constraintText_iffs {records backs : List TextRecord}
    (h : ∀ given ∈ records, ReadFor traitName crate given)
    (hbacks : List.Forall₂ (RereadAs traitName crate)
      (records.map (·.reloaded crate)) backs) :
    List.Forall₂ (fun given back => given.constraintText ≠ "" →
      (back.constraintText = given.constraintText ↔
        ¬[':', ':', ':', ' '] <:+: given.constraintText.toList)) records
          backs := by
  rw [List.forall₂_map_left_iff] at hbacks
  have hboth := (List.forall₂_and_left _ _).mpr ⟨h, hbacks⟩
  exact hboth.imp fun given back hrecord =>
    hrecord.1.constraintText_reloaded_iff hrecord.2

theorem exists_cratesRereadAs_reloaded (traitName : String)
    (crates : Assoc String (List TextRecord)) :
    ∃ backs, List.Forall₂ (CrateRereadAs traitName)
      (Structured.reloaded crates) backs := by
  refine exists_cratesRereadAs traitName fun field hfield given hgiven => ?_
  obtain ⟨original, -, rfl⟩ := List.mem_map.mp hfield
  obtain ⟨record, -, rfl⟩ := List.mem_map.mp hgiven
  have hempty : Markup.ReferencesReadable "".toList :=
    Markup.referencesReadable_of_length_le (by decide)
  exact hempty

/-- Which constraints survive without their markup.  Plain text comes back from
the markup that shows it exactly when no three colons stand in it before a
space.  So when a script is read, dumped and written again, each constraint that
is not empty comes back exactly under this condition. -/
theorem constraints_survive_iff {markup text script traitName source : String}
    {fragment : Fragment} (hplain : Markup.plainText markup = .ok text)
    (hread : read script traitName source = .ok fragment)
    (copyId fragmentId : String) :
    (Markup.plainText (String.ofList (Markup.escape text.toList)) = .ok text ↔
      ¬[':', ':', ':', ' '] <:+: text.toList) ∧
    ∃ crates data copy again backs,
      fragment = Fragment.ofTexts crates (.text source) ∧
      Structured.toData fragment = .ok data ∧
      Structured.ofValue (Structured.documentOf data) copyId "" = .ok copy ∧
      write copy = .ok again ∧
      read again traitName fragmentId =
        .ok (Fragment.ofTexts backs (.text fragmentId)) ∧
      List.Forall₂ (fun given back => back.1 = given.1 ∧
        List.Forall₂ (fun record returned => record.constraintText ≠ "" →
          (returned.constraintText = record.constraintText ↔
            ¬[':', ':', ':', ' '] <:+: record.constraintText.toList))
              given.2 back.2)
        crates backs := by
  refine ⟨Markup.plainText_escape_iff hplain, ?_⟩
  obtain ⟨crates, rfl, hkeys, hcrates⟩ := exists_texts_of_read hread
  obtain ⟨backs, hbacks⟩ := exists_cratesRereadAs_reloaded traitName crates
  have hreloaded : (Structured.reloaded crates).keys.Nodup := by
    rw [Assoc.keys, Structured.reloaded, List.map_map]
    exact hkeys
  refine ⟨crates, _, _, _, backs, rfl, Structured.toData_ofTexts crates _,
    Structured.ofValue_documentOf hkeys copyId, write_ofTexts _ _,
    read_scriptText hreloaded hbacks fragmentId, ?_⟩
  rw [Structured.reloaded, List.forall₂_map_left_iff] at hbacks
  have hboth := (List.forall₂_and_left _ _).mpr ⟨hcrates, hbacks⟩
  refine hboth.imp fun given back hfield => ⟨hfield.2.1, ?_⟩
  exact constraintText_iffs hfield.1 hfield.2.2

/-- Without markup the second of these two constraints loses its space. -/
def colonsCrates : Assoc String (List TextRecord) := [
  ("core", [
    { traitName := "Display", implementingType := "Foo", owningCrate := "core"
      constraintText := "T: Eq", synthetic := false,
      rendered := "T: <b>Eq</b>" },
    { traitName := "Display", implementingType := "Bar", owningCrate := "core"
      constraintText := "::: x", synthetic := false, rendered := ":: : x" }])]

theorem readFor_colonsCrates : ∀ field ∈ colonsCrates, ∀ given ∈ field.2,
    ReadFor "Display" field.1 given := by
  refine List.forall_mem_singleton.mpr
    (List.forall_mem_cons.mpr ⟨⟨rfl, rfl, ?_⟩, ?_⟩)
  · cbv
  · exact List.forall_mem_singleton.mpr ⟨rfl, rfl, by cbv⟩

theorem read_colonsCrates (source : String) :
    read (String.ofList (scriptText (described colonsCrates)))
      "Display" source = .ok (Fragment.ofTexts colonsCrates (.text source)) :=
  read_scriptText (by decide) (cratesRereadAs_shown readFor_colonsCrates) source

theorem constraints_survive_colons :
    (Markup.plainText "T: <b>Eq</b>" = .ok "T: Eq" ∧
      (Markup.plainText (String.ofList (Markup.escape "T: Eq".toList)) =
          .ok "T: Eq" ↔
        ¬[':', ':', ':', ' '] <:+: "T: Eq".toList)) ∧
    ∃ fragment, read (String.ofList (scriptText (described colonsCrates)))
      "Display" "a.js" =
        .ok fragment ∧
      ∃ crates copy again backs,
          fragment = Fragment.ofTexts crates (.text "a.js") ∧
        write copy = .ok again ∧
        read again "Display" "b.js" =
          .ok (Fragment.ofTexts backs (.text "b.js")) ∧
        List.Forall₂ (fun given back => back.1 = given.1 ∧
          List.Forall₂ (fun record returned => record.constraintText ≠ "" →
            (returned.constraintText = record.constraintText ↔
              ¬[':', ':', ':', ' '] <:+: record.constraintText.toList))
                given.2 back.2)
          crates backs := by
  have hplain : Markup.plainText "T: <b>Eq</b>" = .ok "T: Eq" := by cbv
  have hread := read_colonsCrates "a.js"
  obtain ⟨hmarkup, crates, -, copy, again, backs, hcrates, -, -, hwrite, hagain,
    hconstraints⟩ :=
    constraints_survive_iff hplain hread "c.json" "b.js"
  exact ⟨⟨hplain, hmarkup⟩, _, hread, crates, copy, again, backs,
    hcrates, hwrite, hagain, hconstraints⟩

/-- Putting the third colon next to the first two leaves the space behind it,
which the next reading takes away. -/
theorem plainText_three_colons :
    Markup.plainText ":: : x" = .ok "::: x" ∧
      Markup.plainText (String.ofList (Markup.escape "::: x".toList)) =
        .ok ":::x" := by
  constructor <;> cbv

end TraitIndex.Script
