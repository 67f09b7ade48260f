import TraitIndex.Proofs.Command.Exits
import TraitIndex.Proofs.Service.Traits

/-!
# One selection, asked for in two ways

The implementors of a trait can be asked for on the command line and from the
service.  Both select them by crate, with conditions of their own, and give the
same records in the same order.  What can keep them from it differs: the service
cannot encode every text, and the console cannot show every name.
-/

namespace TraitIndex

open Console

/-! ## Arguments -/

namespace Command

theorem kindOfArgument_operand {argument : String}
    (h : argument.toList.head? ≠ some '-') (forms : List OptionForm) :
    kindOfArgument forms argument = .operand := by
  unfold kindOfArgument
  split
  · next heq => simp [heq] at h
  · next heq => simp [heq] at h
  · rfl

theorem ofArguments_implementors (arguments : List String) :
    Invocation.ofArguments ("implementors" :: arguments) =
      implementorsUsage.invocation arguments := by
  have hname : kindOfArgument [.flag helpOption, .flag versionOption]
      "implementors" = .operand :=
    kindOfArgument_operand (by decide) _
  have hgeneral : splitGeneral? ("implementors" :: arguments) =
      some ⟨[], "implementors" :: arguments⟩ := by
    simp [splitGeneral?, Arguments.split?, hname]
  rw [Invocation.ofArguments, hgeneral]
  rfl

def crateArguments : Option String → List String
  | none => []
  | some crate => ["--crate", crate]

/-- Behind a double dash the name of a trait is one whatever it looks like. -/
theorem ofArguments_crate_trait (traitName : String) (crate : Option String) :
    Invocation.ofArguments
      ("implementors" :: (crateArguments crate ++ ["--", traitName])) =
      .run (.ask (.implementors traitName crate) ⟨none, none⟩) := by
  rw [ofArguments_implementors]
  cases crate <;> rfl

end Command

/-! ## Answers -/

theorem Question.given_of_ne_empty {text : Option String} (h : text ≠ some "") :
    given text = text := by
  cases text with
  | none => rfl
  | some text => simpa [given, Option.filter_some] using h

/-- A trait that is known is what its name means, even if the names of others
end in it. -/
theorem Question.implementorsOf_known {registry : Registry} {traitName : String}
    (h : traitName ∈ registry.traits) (crate : Option String) :
    implementorsOf registry traitName crate =
      .implementors traitName
        (registry.recordsFor traitName (given crate)) := by
  have hknown : registry.knows traitName = true :=
    Registry.knows_iff_mem_traits.mpr h
  rw [implementorsOf, Registry.resolve, if_pos hknown]

/-- What is shown for the records of a trait: a table with a row for each, or a
line that says there are none. -/
def implementorDisplay (traitName : String) (records : List Record) : Display :=
  if records.isEmpty then
    .line ("[yellow]No implementors recorded for " ++ traitName ++ ".[/]")
  else
    .table (traitName ++ " (" ++ toString records.length ++ " implementors)")
      Answer.implementorColumns (records.map Answer.implementorRow)

theorem Answer.displays_implementors (traitName : String)
    (records : List Record) :
    (implementors traitName records).displays =
      .ok [implementorDisplay traitName records] := by
  cases records <;> rfl

section

variable [Host] {files : FileTree} {environment : Environment}
  {arguments : List String} {choice : BundleChoice} {config : Config}
  {index : DocsIndex}

theorem Exit.ofArguments_of_displays {question : Question}
    {displays : List Display}
    (hconfig : (Config.load files environment (choice.configFile.getD "")).1 =
      .ok config)
    (hbuilt : ((Command.configured config choice).loadBundle files).1 =
      .ok index)
    (hasked : Invocation.ofArguments arguments = .run (.ask question choice))
    (hdisplays : (index.answer question).displays = .ok displays) :
    ∃ log, Exit.ofArguments files environment arguments =
      .shown files 0 displays log := by
  rw [Exit.ofArguments, hasked]
  simp only [Command.exit, Command.answerQuestion, hconfig, hbuilt, hdisplays]
  exact ⟨_, rfl⟩

theorem Exit.ofArguments_implementors {traitName : String}
    {crate : Option String}
    (hconfig : (Config.load files environment (choice.configFile.getD "")).1 =
      .ok config)
    (hbuilt : ((Command.configured config choice).loadBundle files).1 =
      .ok index)
    (hasked : Invocation.ofArguments arguments =
      .run (.ask (.implementors traitName crate) choice))
    (hknown : traitName ∈ index.registry.traits) :
    ∃ log, Exit.ofArguments files environment arguments =
      .shown files 0 [implementorDisplay traitName
        (index.registry.recordsFor traitName (Question.given crate))] log := by
  have hanswer : index.answer (.implementors traitName crate) =
      .implementors traitName
        (index.registry.recordsFor traitName (Question.given crate)) :=
    Question.implementorsOf_known hknown crate
  refine ofArguments_of_displays hconfig hbuilt hasked ?_
  rw [hanswer, Answer.displays_implementors]

/-- A trait that the service can be asked for is answered for alike by the
program and by the service when both have loaded the same bundle: with all its
records, or with those of one crate.  No other trait is taken for it, and an
empty name of a crate, which the program takes for none, is not among the
choices.  The service answers if it can encode the records, and the program if
the console can show them. -/
theorem selections_agree {service : Service} {request : Service.Request}
    {traitName : String} {crate : Option String}
    (hconfig : (Config.load files environment (choice.configFile.getD "")).1 =
      .ok config)
    (hbuilt : ((Command.configured config choice).loadBundle files).1 =
      .ok index)
    (hserved : service.answersFrom = .ok index)
    (hknown : traitName ∈ index.registry.traits)
    (hasked : Invocation.ofArguments arguments =
      .run (.ask (.implementors traitName crate) choice))
    (hroute : Service.Route.ofPath? request.path =
      some (.resource (.implementors traitName)))
    (hparameter : request.parameter? "crate" = crate)
    (hcrate : crate ≠ some "") :
    let records := index.registry.recordsFor traitName crate
    (Text.isEncodable traitName = true →
      (∀ record ∈ records,
          (Service.Reply.recordObject record).isEncodable = true) →
        service.Answers request 200
          (Service.implementorsBody traitName records records.length)) ∧
      (Host.complaint? (implementorDisplay traitName records) = none →
        ∃ log, Exit.ofArguments files environment arguments =
          ⟨0, [implementorDisplay traitName records], "", log, files, none⟩) ∧
      ∀ name meanings, index.answer (.implementors traitName crate) ≠
        .ambiguous name meanings := by
  intro records
  refine ⟨fun hname hrecords => ?_, fun hshown => ?_, ?_⟩
  · subst hparameter
    exact Service.answers_implementors hserved hroute hname hrecords
  · obtain ⟨log, hexit⟩ :=
      Exit.ofArguments_implementors hconfig hbuilt hasked hknown
    rw [Question.given_of_ne_empty hcrate, Exit.shown_of_no_complaint hshown]
      at hexit
    exact ⟨log, hexit⟩
  · intro name meanings hambiguous
    cases (Question.implementorsOf_known hknown crate).symm.trans hambiguous

end

/-! ## A trait with records of two crates -/

open TraitIndex.Bundle (sharedTree docsRoot noVariables)
open Service (Route start)

theorem loadBundle_shared {index : DocsIndex}
    (h : (Bundle.load sharedTree docsRoot none).1 = .ok index) :
    ((Command.configured ⟨docsRoot, none, .warning⟩ ⟨none, none⟩).loadBundle
      sharedTree).1 = .ok index := h

theorem selections_agree_shown : ∃ index log,
    let records := index.registry.recordsFor "-Shown" (some "egui")
    (Bundle.load sharedTree docsRoot none).1 = .ok index ∧
      Exit.ofArguments sharedTree noVariables
        ["implementors", "--crate", "egui", "--", "-Shown"] =
        ⟨0, [implementorDisplay "-Shown" records], "", log, sharedTree, none⟩ ∧
      (start sharedTree noVariables).Answers
        ⟨Route.traitPath "-Shown", [("crate", "egui")]⟩ 200
        (Service.implementorsBody "-Shown" records records.length) := by
  obtain ⟨index, hbuilt, hserved, hsummaries, hrecords, -⟩ :=
    Service.start_shared
  obtain ⟨hshown, -, -⟩ := Registry.of_mem_summaries
    ((hsummaries ⟨"-Shown", 2, ["core", "egui"]⟩).mpr (by decide))
  have hroute := (Route.ofPath?_traitPath_iff "-Shown").mpr (by decide)
  have hasked := Command.ofArguments_crate_trait "-Shown" (some "egui")
  obtain ⟨hanswers, hexits, -⟩ :=
    @selections_agree _ sharedTree noVariables _ ⟨none, none⟩ _ index
      (start sharedTree noVariables)
        ⟨Route.traitPath "-Shown", [("crate", "egui")]⟩ "-Shown"
      (some "egui") Bundle.config_shared (loadBundle_shared hbuilt) hserved
        hshown hasked hroute rfl
      (by decide)
  obtain ⟨log, hexit⟩ := hexits rfl
  exact ⟨index, log, hbuilt, hexit, hanswers (by decide)
    fun record hrecord => hrecords record (List.mem_of_mem_filter hrecord)⟩

theorem ofArguments_dash :
    Invocation.ofArguments ["implementors", "-Shown"] = .misuse := by
  decide +kernel

/-- For a crate without a name the program shows the records of every crate, and
the service lists none.  A name that begins with a dash is no operand by itself.
A trait that has a type with a lone surrogate has a handler, but no answer. -/
theorem selections_differ_empty : ∃ index log,
    (Bundle.load sharedTree docsRoot none).1 = .ok index ∧
      ⟨"-Shown", 2, ["core", "egui"]⟩ ∈ index.registry.summaries ∧
      Route.ofPath? (Route.traitPath "-Shown") =
        some (.resource (.implementors "-Shown")) ∧
      (index.registry.records "-Shown").length = 2 ∧
      Exit.ofArguments sharedTree noVariables
        ["implementors", "--crate", "", "--", "-Shown"] =
        ⟨0, [implementorDisplay "-Shown" (index.registry.records "-Shown")], "",
          log, sharedTree, none⟩ ∧
      (start sharedTree noVariables).Answers
        ⟨Route.traitPath "-Shown", [("crate", "")]⟩ 200
        (Service.implementorsBody "-Shown" [] 0) ∧
      Exit.ofArguments sharedTree noVariables ["implementors", "-Shown"] =
        .shown sharedTree 2 [] [] ∧
      "Lone" ∈ index.registry.traits ∧
      Route.ofPath? (Route.traitPath "Lone") =
        some (.resource (.implementors "Lone")) ∧
      ∀ status body, ¬(start sharedTree noVariables).Answers
        ⟨Route.traitPath "Lone", []⟩ status body := by
  obtain ⟨index, hbuilt, hserved, hsummaries, -, record, hrecord, hlone⟩ :=
    Service.start_shared
  have hmem := (hsummaries ⟨"-Shown", 2, ["core", "egui"]⟩).mpr (by decide)
  obtain ⟨hshown, hlength, hcrates⟩ := Registry.of_mem_summaries hmem
  have hopen : Route.IsOpen "-Shown" := by decide
  have hroute := (Route.ofPath?_traitPath_iff "-Shown").mpr hopen
  have hasked := Command.ofArguments_crate_trait "-Shown" (some "")
  obtain ⟨log, hexit⟩ :=
    @Exit.ofArguments_implementors _ sharedTree noVariables _
      ⟨none, none⟩ _ index "-Shown" (some "")
      Bundle.config_shared (loadBundle_shared hbuilt) hasked hshown
  have hnone : index.registry.recordsFor "-Shown" (some "") = [] :=
    (Bundle.consistent_of_load hbuilt).recordsFor_eq_nil (hcrates ▸ by decide)
  have hanswers : (start sharedTree noVariables).Answers
      ⟨Route.traitPath "-Shown", [("crate", "")]⟩ 200
        (Service.implementorsBody "-Shown" [] 0) := by
    have hlisted := @Service.answers_implementors _ _ index hserved
      ⟨Route.traitPath "-Shown", [("crate", "")]⟩ "-Shown" hroute (by decide)
    have hparameter : Service.Request.parameter?
        ⟨Route.traitPath "-Shown", [("crate", "")]⟩ "crate" = some "" := rfl
    rw [hparameter, hnone] at hlisted
    exact hlisted fun _ h => absurd h List.not_mem_nil
  have hmisuse :
      Exit.ofArguments sharedTree noVariables ["implementors", "-Shown"] =
      .shown sharedTree 2 [] [] := by
    rw [Exit.ofArguments, ofArguments_dash]
  obtain ⟨hloneTrait, -, -⟩ := Registry.of_mem_summaries
    ((hsummaries ⟨"Lone", 1, ["egui"]⟩).mpr (by decide))
  have hloneRoute := (Route.ofPath?_traitPath_iff "Lone").mpr (by decide)
  exact ⟨index, log, hbuilt, hmem, hroute, hlength, hexit, hanswers, hmisuse,
    hloneTrait, hloneRoute,
    Service.not_answers_of_not_encodable hserved hloneRoute hrecord hlone⟩

end TraitIndex
