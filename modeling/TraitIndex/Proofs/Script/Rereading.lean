import TraitIndex.Proofs.Bundle.Contents
import TraitIndex.Proofs.Registry.Merging
import TraitIndex.Proofs.Registry.TextRecords
import TraitIndex.Proofs.Script.RoundTrip

/-!
# Scripts written again

Whatever is read from a script can be written as a script again.  A record that
was read with markup comes back as it was.  One that was read without any is
written with a plain statement of the implementation, and comes back as a record
under that very constraint.  So a script that is written again brings nothing
new but such statements.
-/

namespace TraitIndex

namespace TextRecord

variable (given : TextRecord)

/-- The implementation a record is about, in words. -/
def statement : String :=
  "impl " ++ Text.lastSegment given.traitName ++ " for " ++
    Text.lastSegment given.implementingType

/-- A record as a script shows it.  Without markup of its own it shows its
statement, and the plain text of that becomes its constraint. -/
def shown : TextRecord :=
  if given.rendered = "" then
    { given with
      constraintText := String.ofList (Markup.closeUp given.statement.toList)
      rendered := String.ofList (Markup.escape given.statement.toList) }
  else given

variable {given}

theorem shown_of_rendered (h : given.rendered ≠ "") : given.shown = given := by
  rw [shown, if_neg h]

@[simp] theorem isIncomplete_shown :
    given.shown.isIncomplete = given.isIncomplete := by
  by_cases h : given.rendered = ""
  · rw [shown, if_pos h, isIncomplete, isIncomplete]
  · rw [shown_of_rendered h]

end TextRecord

namespace Script

/-! ## One record -/

namespace ReadFor

variable {traitName crate : String} {given : TextRecord}

theorem constraintText_eq_empty (h : ReadFor traitName crate given)
    (hrendered : given.rendered = "") :
    given.constraintText = "" := by
  have hplain := h.plainText_rendered
  rw [hrendered] at hplain
  exact (Except.ok.inj hplain).symm

theorem rereadAs_shown (h : ReadFor traitName crate given) :
    RereadAs traitName crate given given.shown := by
  obtain ⟨rfl, rfl, hplain⟩ := id h
  by_cases hrendered : given.rendered = ""
  · have hstatement : given.plain = given.statement :=
      if_pos (h.constraintText_eq_empty hrendered)
    have hmarkup : given.markup =
        String.ofList (Markup.escape given.statement.toList) := by
      rw [TextRecord.markup, if_pos hrendered, hstatement]
    refine ⟨String.ofList (Markup.closeUp given.statement.toList), ?_, ?_⟩
    · rw [hmarkup, Markup.plainText_escape]
    · rw [TextRecord.shown, if_pos hrendered, TextRecord.reread, hmarkup]
  · have hmarkup : given.markup = given.rendered := if_neg hrendered
    refine ⟨given.constraintText, ?_, ?_⟩
    · rw [hmarkup, hplain]
    · rw [TextRecord.shown_of_rendered hrendered, TextRecord.reread, hmarkup]

/-- A record comes back as the same fact exactly when it was read with
markup. -/
theorem identity?_shown_iff (h : ReadFor traitName crate given) :
    given.shown.record.identity? = given.record.identity? ↔
      given.rendered ≠ "" := by
  rw [h.rereadAs_shown.identity?_eq_iff]
  constructor
  · intro hkeeps hrendered
    exact (hkeeps.plain hrendered).1 (h.constraintText_eq_empty hrendered)
  · intro hrendered
    exact ⟨h.traitName_eq, h.owningCrate_eq, fun _ => h.plainText_rendered,
      fun hempty => absurd hempty hrendered⟩

end ReadFor

/-! ## A whole script -/

def shown (crates : Assoc String (List TextRecord)) :
    Assoc String (List TextRecord) :=
  crates.map fun field => (field.1, field.2.map TextRecord.shown)

theorem cratesRereadAs_shown {traitName : String}
    {crates : Assoc String (List TextRecord)}
    (h : ∀ field ∈ crates, ∀ given ∈ field.2, ReadFor traitName field.1 given) :
    List.Forall₂ (CrateRereadAs traitName) crates (shown crates) := by
  apply forall₂_map
  intro field hfield
  have hrecords : List.Forall₂ (RereadAs traitName field.1) field.2
      (field.2.map TextRecord.shown) :=
    forall₂_map fun given hgiven => (h field hfield given hgiven).rereadAs_shown
  exact ⟨rfl, hrecords⟩

/-! ## Merging it again -/

section

variable (registry : Registry) (crates : Assoc String (List TextRecord))
  (source again : Value)

/-- What a registry has seen once the records come again as a script shows
them. -/
theorem mem_seen_merge_shown {identity : Identity} :
    let first :=
      (registry.merge (.fragment (Fragment.ofTexts crates source))).registry
    let second :=
      (first.merge (.fragment (Fragment.ofTexts (shown crates) again))).registry
    identity ∈ second.seen ↔ identity ∈ first.seen ∨
      ∃ field ∈ crates, ∃ given ∈ field.2,
        given.rendered = "" ∧ given.isIncomplete = false ∧
          given.shown.identity = identity := by
  intro first second
  rw [Registry.mem_seen_merge, List.mem_append, Payload.mem_identities_ofTexts]
  constructor
  · rintro (hseen | ⟨_, hshown, _, hrecord, hcomplete, hidentity⟩)
    · exact .inl hseen
    · obtain ⟨field, hfield, rfl⟩ := List.mem_map.mp hshown
      obtain ⟨given, hgiven, rfl⟩ := List.mem_map.mp hrecord
      rw [TextRecord.isIncomplete_shown] at hcomplete
      by_cases hrendered : given.rendered = ""
      · exact .inr ⟨field, hfield, given, hgiven, hrendered, hcomplete,
          hidentity⟩
      · rw [TextRecord.shown_of_rendered hrendered] at hidentity
        have hstated := (Payload.mem_identities_ofTexts crates source).mpr
          ⟨field, hfield, given, hgiven, hcomplete, hidentity⟩
        exact .inl (registry.mem_seen_of_stated hstated)
  · rintro (hseen | ⟨field, hfield, given, hgiven, -, hcomplete, hidentity⟩)
    · exact .inl hseen
    · exact .inr ⟨_, List.mem_map_of_mem hfield, given.shown,
        List.mem_map_of_mem hgiven, given.isIncomplete_shown.trans hcomplete,
        hidentity⟩

/-- Where every complete record has markup, the script brings nothing new. -/
theorem merge_shown (h : ∀ field ∈ crates, ∀ given ∈ field.2,
    given.rendered = "" → given.isIncomplete = true) :
    let first :=
      (registry.merge (.fragment (Fragment.ofTexts crates source))).registry
    let second :=
      first.merge (.fragment (Fragment.ofTexts (shown crates) again))
    second.report.added = 0 ∧ second.registry = first.absorb second.report := by
  intro first second
  apply Registry.merge_of_seen
  intro fact hfact
  have hseen : fact.identity ∈ second.registry.seen :=
    first.mem_seen_of_stated (List.mem_map_of_mem hfact)
  obtain hfirst | ⟨field, hfield, given, hgiven, hrendered, hcomplete, -⟩ :=
    (mem_seen_merge_shown registry crates source again).mp hseen
  · exact hfirst
  · rw [h field hfield given hgiven hrendered] at hcomplete
    cases hcomplete

end

/-- A script that is read can be written and read again: the same crates hold
the same records, only that those without markup now show their statement.
Nothing but these statements is new to a registry that has merged the first
reading, and a second writing gives the same script. -/
theorem read_write_of_read {text traitName source : String}
    {fragment : Fragment} (h : read text traitName source = .ok fragment) :
    ∃ crates script, fragment = Fragment.ofTexts crates (.text source) ∧
      write fragment = .ok script ∧
      (∀ fragmentId,
        read script traitName fragmentId =
          .ok (Fragment.ofTexts (shown crates) (.text fragmentId)) ∧
        write (Fragment.ofTexts (shown crates) (.text fragmentId)) =
          .ok script) ∧
      (∀ field ∈ crates, ∀ given ∈ field.2,
        (given.shown.record.identity? = given.record.identity? ↔
          given.rendered ≠ "")) ∧
      ∀ (registry : Registry) (fragmentId : String),
        let first := (registry.merge (.fragment fragment)).registry
        let second :=
          first.merge (.fragment
            (Fragment.ofTexts (shown crates) (.text fragmentId)))
        (∀ identity, identity ∈ second.registry.seen ↔ identity ∈ first.seen ∨
          ∃ field ∈ crates, ∃ given ∈ field.2, given.rendered = "" ∧
            given.isIncomplete = false ∧ given.shown.identity = identity) ∧
        ((∀ field ∈ crates, ∀ given ∈ field.2,
            given.rendered = "" → given.isIncomplete = true) →
          second.report.added = 0 ∧
            second.registry = first.absorb second.report) := by
  obtain ⟨crates, rfl, hkeys, hread⟩ := exists_texts_of_read h
  have hbacks := cratesRereadAs_shown hread
  refine ⟨crates, _, rfl, write_ofTexts crates _, fun fragmentId =>
    ⟨?_, ?_⟩, ?_, ?_⟩
  · exact read_scriptText hkeys hbacks fragmentId
  · rw [write_ofTexts, described_eq hbacks]
  · exact fun field hfield given hgiven =>
      (hread field hfield given hgiven).identity?_shown_iff
  · intro registry fragmentId
    exact ⟨fun identity => mem_seen_merge_shown ..,
      merge_shown registry crates _ _⟩

/-! ## A descriptor without text -/

def bareScript : List Char :=
  ("var implementors\n"
    ++ "implementors[\"core\"] = [\x7b\"types\":[\"Foo\"]\x7d];").toList

def bareCrates : Assoc String (List TextRecord) := [
  ("core", [
    { traitName := "Display", implementingType := "Foo", owningCrate := "core"
      constraintText := "", synthetic := false, rendered := "" }])]

def bareDescriptor : Value := .mapping [(.text "types", .list [.text "Foo"])]

theorem reads_bareDescriptor :
    Json.Reads (Json.encode bareDescriptor) bareDescriptor := by
  have htypes : Json.Reads (Json.encode (.list [.text "Foo"]))
      (.list [.text "Foo"]) :=
    Json.reads_encode_list (by simpa using Json.reads_encode_text "Foo")
  have hobject :=
    Json.reads_object
      [("types", Json.encode (.list [.text "Foo"]), .list [.text "Foo"])]
        (by simpa using htypes)
  simpa [bareDescriptor, Json.encode, Json.encodeFields, Json.fieldText,
    Json.keyName, Json.fieldValue, Value.ofFields, Value.assign] using hobject

theorem read_bareScript (source : String) :
    read (String.ofList bareScript) "Display" source =
      .ok (Fragment.ofTexts bareCrates (.text source)) := by
  have hmarker : Text.contains marker bareScript = true := by decide +kernel
  have hassignments : assignments bareScript =
      [⟨Json.encodeAsciiString "core",
        Json.encode (.list [bareDescriptor])⟩] := by
    decide +kernel
  have hcrate : decodeLiteral source (Json.encodeAsciiString "core") =
      .ok (.text "core") :=
    decodeLiteral_eq
      (Json.reads_string Json.readsChars_asciiStringChar "core").decodeChars_eq
        source
  have hlist : decodeLiteral source (Json.encode (.list [bareDescriptor])) =
      .ok (.list [bareDescriptor]) :=
    decodeLiteral_eq
      (Json.reads_encode_list
        (by simpa using reads_bareDescriptor)).decodeChars_eq
      source
  unfold read
  rw [String.toList_ofList, hmarker, hassignments]
  unfold entryOfAssignment
  simp only [List.mapM_cons, List.mapM_nil, hcrate, hlist, bind, Except.bind]
  rfl

theorem readFor_bareCrates : ∀ field ∈ bareCrates, ∀ given ∈ field.2,
    ReadFor "Display" field.1 given := by
  intro field hfield given hgiven
  obtain rfl := List.mem_singleton.mp hfield
  obtain rfl := List.mem_singleton.mp hgiven
  exact ⟨rfl, rfl, rfl⟩

theorem read_write_of_read_bare :
    read (String.ofList bareScript) "Display" "a.js" =
        .ok (Fragment.ofTexts bareCrates (.text "a.js")) ∧
      ∃ crates script, Fragment.ofTexts bareCrates (.text "a.js") =
          Fragment.ofTexts crates (.text "a.js") ∧
        write (Fragment.ofTexts bareCrates (.text "a.js")) = .ok script ∧
        read script "Display" "b.js" =
          .ok (Fragment.ofTexts (shown crates) (.text "b.js")) := by
  obtain ⟨crates, script, hcrates, hscript, hagain, -⟩ :=
    read_write_of_read (read_bareScript "a.js")
  exact ⟨read_bareScript "a.js", crates, script, hcrates, hscript,
    (hagain "b.js").1⟩

/-- The record of a descriptor without text comes back under a constraint, as a
new fact. -/
theorem read_again_bare :
    ∃ fragment script again, read (String.ofList bareScript) "Display" "" =
        .ok fragment ∧
      write fragment = .ok script ∧ read script "Display" "" = .ok again ∧
      (Payload.fragment fragment).facts.map (·.identity) =
        [⟨"Display", "core", "Foo", ""⟩] ∧
      (Payload.fragment again).facts.map (·.identity) =
        [⟨"Display", "core", "Foo", "impl Display for Foo"⟩] ∧
      ((Registry.empty.merge (.fragment fragment)).registry.merge
        (.fragment again)).report.added
        = 1 := by
  have hkeys : bareCrates.keys.Nodup := by decide
  have hagain :=
    read_scriptText hkeys (cratesRereadAs_shown readFor_bareCrates) ""
  refine ⟨_, _, _, read_bareScript "", write_ofTexts bareCrates _, hagain,
    ?_, ?_, ?_⟩
  · decide +kernel
  · decide +kernel
  · decide +kernel

end Script

end TraitIndex
