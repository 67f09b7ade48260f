import TraitIndex.Proofs.Command.Exits
import TraitIndex.Proofs.Config.Values
import TraitIndex.Proofs.Files.Trees

/-!
# What loading a configuration comes to

A configuration is made when the settings can be found and each of the three
values stands for what it should be.  Some of what can be wrong with them is
refused as a bad configuration, which the program reports with status 2 if the
console can show it.  The rest is not foreseen and ends the program: a path that
is too long or leads to a directory, bytes that are no text, a value that YAML
cannot make or never comes to the end of, a file that nests too deep, a docs
root that is no text, an infinite count, and a number that is too long to be
shown in a refusal.
-/

namespace TraitIndex

namespace Config

/-! ## The settings of a file -/

section

variable (tree : FileTree) (named : String)

/-- The settings there are: those of a file, or none when it holds nothing, or
when no file is named and the usual one is missing. -/
inductive Gives : List (Value × Value) → Prop
  | nothing {obstacle : FileTree.Obstacle} (hnamed : named = "")
      (hnode : tree.node (settingsPath named) = .error obstacle)
      (hobstacle : obstacle ≠ .nameTooLong) : Gives []
  | mapping {content : List UInt8} {fields : List (Value × Value)}
      (hnode : tree.node (settingsPath named) = .ok (.file content))
      (hdecoded : Yaml.decodeSettings (Text.piecesOfBytes content) =
        .ok (.mapping fields)) :
      Gives fields
  | blank {content : List UInt8} {value : Value}
      (hnode : tree.node (settingsPath named) = .ok (.file content))
      (hdecoded : Yaml.decodeSettings (Text.piecesOfBytes content) = .ok value)
      (hvalue : value.isTruthy = false) : Gives []

/-- What can be wrong with the file of the settings.  The first three are
refused, the others are not foreseen. -/
inductive NoSettings : Fault → Prop
  | missing {obstacle : FileTree.Obstacle} (hnamed : named ≠ "")
      (hnode : tree.node (settingsPath named) = .error obstacle)
      (hobstacle : obstacle ≠ .nameTooLong) :
      NoSettings (.config (.missing (settingsPath named).toText))
  | malformed {content : List UInt8}
      (hnode : tree.node (settingsPath named) = .ok (.file content))
      (hdecoded : Yaml.decodeSettings (Text.piecesOfBytes content) =
        .error .malformed) :
      NoSettings (.config (.badText (settingsPath named).toText))
  | notMapping {content : List UInt8} {value : Value}
      (hnode : tree.node (settingsPath named) = .ok (.file content))
      (hdecoded : Yaml.decodeSettings (Text.piecesOfBytes content) = .ok value)
      (hvalue : value.isTruthy = true)
      (hmapping : ∀ fields, value ≠ .mapping fields) :
      NoSettings (.config (.notMapping (settingsPath named).toText))
  | nameTooLong (hnode : tree.node (settingsPath named) = .error .nameTooLong) :
      NoSettings (.file (.nameTooLong (settingsPath named).toText))
  | directory (hnode : tree.node (settingsPath named) = .ok .directory) :
      NoSettings (.file (.isDirectory (settingsPath named).toText))
  | notText {content : List UInt8} {cause : Text.Utf8Fault}
      (hnode : tree.node (settingsPath named) = .ok (.file content))
      (hdecoded : Yaml.decodeSettings (Text.piecesOfBytes content) =
        .error (.bytes cause)) :
      NoSettings (.file (.notText cause))
  | badValue {content : List UInt8} {cause : ValueFault}
      (hnode : tree.node (settingsPath named) = .ok (.file content))
      (hdecoded : Yaml.decodeSettings (Text.piecesOfBytes content) =
        .error (.value cause)) :
      NoSettings (.value cause)
  | endless {content : List UInt8}
      (hnode : tree.node (settingsPath named) = .ok (.file content))
      (hdecoded : Yaml.decodeSettings (Text.piecesOfBytes content) =
        .error .endless) :
      NoSettings .recursion

/-- Where the settings come from, by what stands at the path. -/
theorem map_settings : (settings tree named).map (·.1) =
    match tree.node (settingsPath named) with
    | .ok (.file content) =>
        settingsOfText (settingsPath named) (Text.piecesOfBytes content)
    | .ok .directory =>
        .error (.file (.isDirectory (settingsPath named).toText))
    | .error .nameTooLong =>
        .error (.file (.nameTooLong (settingsPath named).toText))
    | .error _ =>
        if named = "" then .ok []
        else .error (.config (.missing (settingsPath named).toText)) := by
  unfold settings settingsPath
  simp only [FileTree.contains, FileTree.node?, FileTree.readBytes]
  generalize Path.ofText (Text.nameOr usualFile named) = path
  cases tree.node path with
  | ok node =>
      cases node with
      | file content =>
          simp only [Except.map, mapError_ok, bind, Except.bind, pure,
            Except.pure, Option.isSome_some, if_true]
          cases settingsOfText path (Text.piecesOfBytes content) <;> rfl
      | directory => rfl
  | error obstacle =>
      by_cases hnamed : named = "" <;> cases obstacle <;>
        simp [hnamed, Except.map, mapError_ok, mapError_error, bind,
          Except.bind, pure, Except.pure, throw, throwThe, MonadExceptOf.throw]

theorem settingsOfText_blank (path : Path) {text : Text.Pieces} {value : Value}
    (hdecoded : Yaml.decodeSettings text = .ok value)
    (hvalue : value.isTruthy = false) :
    settingsOfText path text = .ok [] := by
  unfold settingsOfText
  rw [hdecoded]
  cases value <;> simp_all [Value.isTruthy]

theorem settingsOfText_notMapping (path : Path) {text : Text.Pieces}
    {value : Value} (hdecoded : Yaml.decodeSettings text = .ok value)
    (hvalue : value.isTruthy = true)
    (hmapping : ∀ fields, value ≠ .mapping fields) :
    settingsOfText path text = .error (.config (.notMapping path.toText)) := by
  unfold settingsOfText
  rw [hdecoded]
  cases value <;> simp_all [Value.isTruthy]

theorem exists_settings :
    (∃ fields, Gives tree named fields) ∨
      ∃ fault, NoSettings tree named fault := by
  cases hnode : tree.node (settingsPath named) with
  | ok node =>
      cases node with
      | directory => exact .inr ⟨_, .directory hnode⟩
      | file content =>
          cases hdecoded : Yaml.decodeSettings
            (Text.piecesOfBytes content) with
          | error fault =>
              cases fault with
              | malformed => exact .inr ⟨_, .malformed hnode hdecoded⟩
              | value cause => exact .inr ⟨_, .badValue hnode hdecoded⟩
              | bytes cause => exact .inr ⟨_, .notText hnode hdecoded⟩
              | endless => exact .inr ⟨_, .endless hnode hdecoded⟩
          | ok value =>
              by_cases hmapping : ∃ fields, value = .mapping fields
              · obtain ⟨fields, rfl⟩ := hmapping
                exact .inl ⟨_, .mapping hnode hdecoded⟩
              · cases hvalue : value.isTruthy with
                | false => exact .inl ⟨_, .blank hnode hdecoded hvalue⟩
                | true =>
                    exact .inr ⟨_, .notMapping hnode hdecoded hvalue
                      (not_exists.mp hmapping)⟩
  | error obstacle =>
      by_cases hobstacle : obstacle = .nameTooLong
      · exact .inr ⟨_, .nameTooLong (hobstacle ▸ hnode)⟩
      · by_cases hnamed : named = ""
        · exact .inl ⟨_, .nothing hnamed hnode hobstacle⟩
        · exact .inr ⟨_, .missing hnamed hnode hobstacle⟩

theorem settles_settings :
    Settles ((settings tree named).map (·.1)) (Gives tree named)
      (NoSettings tree named) := by
  rw [map_settings]
  apply Settles.of_total
  case hok =>
    rintro fields (⟨hnamed, hnode, hobstacle⟩ | ⟨hnode, hdecoded⟩
      | ⟨hnode, hdecoded, hvalue⟩)
    · rw [hnode]
      simp [hnamed]
    · simp only [hnode]
      unfold settingsOfText
      rw [hdecoded]
    · rw [hnode]
      exact settingsOfText_blank _ hdecoded hvalue
  case herror =>
    rintro fault (⟨hnamed, hnode, hobstacle⟩ | ⟨hnode, hdecoded⟩ |
      ⟨hnode, hdecoded, hvalue, hmapping⟩ | hnode | hnode | ⟨hnode, hdecoded⟩ |
      ⟨hnode, hdecoded⟩ | ⟨hnode, hdecoded⟩)
    · rw [hnode]
      simp [hnamed]
    · simp only [hnode]
      unfold settingsOfText
      rw [hdecoded]
    · rw [hnode]
      exact settingsOfText_notMapping _ hdecoded hvalue hmapping
    · rw [hnode]
    · rw [hnode]
    · simp only [hnode]
      unfold settingsOfText
      rw [hdecoded]
    · simp only [hnode]
      unfold settingsOfText
      rw [hdecoded]
    · simp only [hnode]
      unfold settingsOfText
      rw [hdecoded]
  case htotal => exact exists_settings tree named

end

/-! ## The configuration -/

section

variable (environment : Environment) (fields : List (Value × Value))

def givenRoot : Value :=
  setting environment.docsRoot fields "docs_root" (.text "docs")

def givenCount : Value :=
  setting environment.expected fields "expected_fragments" .null

def givenLevel : Value :=
  setting environment.logLevel fields "log_level" (.text "WARNING")

/-- The configuration that is made from settings and variables. -/
structure Makes (config : Config) : Prop where
  docsRoot : ∃ text, givenRoot environment fields = .text text ∧
    config.docsRoot = .ofText text
  expected : Expects (givenCount environment fields) config.expected
  logLevel : NamesLevel (givenLevel environment fields) config.logLevel

/-- What keeps settings and variables from making a configuration: the first
value that does not stand for what it should be. -/
inductive Spoils : Fault → Prop
  | docsRoot (htext : ∀ text, givenRoot environment fields ≠ .text text) :
      Spoils (.notPath (givenRoot environment fields).kindName)
  | expected {text : String} {fault : Fault}
    (hroot : givenRoot environment fields = .text text)
      (h : NoCount (givenCount environment fields) fault) : Spoils fault
  | logLevel {text : String} {count : Option Int} {fault : Fault}
      (hroot : givenRoot environment fields = .text text)
      (hcount : Expects (givenCount environment fields) count)
      (h : NoLevel (givenLevel environment fields) fault) : Spoils fault

theorem settles_ofSettings :
    Settles (ofSettings fields environment) (Makes environment fields)
      (Spoils environment fields) := by
  refine ((settles_pathOfValue (givenRoot environment fields)).bind
    fun docsRoot _ =>
    (settles_expectedOfValue (givenCount environment fields)).bind
      fun expected _ =>
      (settles_levelOfValue (givenLevel environment fields)).bind
        fun logLevel _ =>
        .of_ok (Config.mk docsRoot expected logLevel)).congr (fun config => ?_)
          fun fault => ?_
  · constructor
    · rintro ⟨docsRoot, hroot, expected, hexpected, logLevel, hlevel, rfl⟩
      exact ⟨hroot, hexpected, hlevel⟩
    · rintro ⟨hroot, hexpected, hlevel⟩
      exact ⟨_, hroot, _, hexpected, _, hlevel, rfl⟩
  · constructor
    · rintro (⟨htext, rfl⟩
        | ⟨_, ⟨text, hroot, -⟩, h | ⟨count, hcount, h | ⟨_, -, ⟨⟩⟩⟩⟩)
      · exact .docsRoot htext
      · exact .expected hroot h
      · exact .logLevel hroot hcount h
    · rintro (htext | ⟨hroot, h⟩ | ⟨hroot, hcount, h⟩)
      · exact .inl ⟨htext, rfl⟩
      · exact .inr ⟨_, ⟨_, hroot, rfl⟩, .inl h⟩
      · exact .inr ⟨_, ⟨_, hroot, rfl⟩, .inr ⟨_, hcount, .inl h⟩⟩

end

section

variable [Host] (tree : FileTree) (environment : Environment) (named : String)

/-- Whether the stack is deep enough for the file of the settings. -/
def Suffices : Prop :=
  Host.isExhausted tree (settingsPath named) (.settings environment) = false

/-- What keeps a configuration from being loaded. -/
inductive Fails : Fault → Prop
  | exhausted (hstack : ¬Suffices tree environment named) : Fails .recursion
  | settings {fault : Fault} (hstack : Suffices tree environment named)
      (h : NoSettings tree named fault) : Fails fault
  | values {fields : List (Value × Value)} {fault : Fault}
      (hstack : Suffices tree environment named)
      (hgives : Gives tree named fields)
      (h : Spoils environment fields fault) : Fails fault

theorem fst_load (hstack : Suffices tree environment named) :
    (load tree environment named).1 =
      (settings tree named).map (·.1) >>= fun fields =>
        ofSettings fields environment := by
  rw [load, if_neg (Bool.eq_false_iff.mp hstack)]
  cases settings tree named <;> rfl

theorem settles_load :
    Settles (load tree environment named).1
      (fun config => Suffices tree environment named ∧
        ∃ fields, Gives tree named fields ∧ Makes environment fields config)
      (Fails tree environment named) := by
  by_cases hstack : Suffices tree environment named
  · rw [fst_load tree environment named hstack]
    refine ((settles_settings tree named).bind fun fields _ =>
      settles_ofSettings environment fields).congr
        (fun _ => (and_iff_right hstack).symm)
      fun fault => ?_
    constructor
    · rintro (h | ⟨fields, hgives, h⟩)
      · exact .settings hstack h
      · exact .values hstack hgives h
    · rintro (hexhausted | ⟨-, h⟩ | ⟨-, hgives, h⟩)
      · exact absurd hstack hexhausted
      · exact .inl h
      · exact .inr ⟨_, hgives, h⟩
  · have hload : (load tree environment named).1 = .error .recursion := by
      rw [load, if_pos ((Bool.not_eq_false _).mp hstack)]
    rw [hload]
    apply Settles.of_total
    case hok => exact fun config h => absurd h.1 hstack
    case herror =>
      rintro fault (- | ⟨h, -⟩ | ⟨h, -⟩)
      · rfl
      · exact absurd h hstack
      · exact absurd h hstack
    case htotal => exact .inr ⟨_, .exhausted hstack⟩

/-- Where nothing can be wrong but what is refused. -/
structure IsForeseen : Prop where
  stack : Suffices tree environment named
  name : tree.node (settingsPath named) ≠ .error .nameTooLong
  file : tree.node (settingsPath named) ≠ .ok .directory
  text : ∀ content cause, tree.node (settingsPath named) = .ok (.file content) →
    Yaml.decodeSettings (Text.piecesOfBytes content) ≠ .error (.bytes cause)
  value : ∀ content cause, tree.node (settingsPath named) =
      .ok (.file content) →
    Yaml.decodeSettings (Text.piecesOfBytes content) ≠ .error (.value cause)
  nesting : ∀ content, tree.node (settingsPath named) = .ok (.file content) →
    Yaml.decodeSettings (Text.piecesOfBytes content) ≠ .error .endless
  root : ∀ fields, Gives tree named fields → ∃ text,
    givenRoot environment fields = .text text
  finite : ∀ fields negative, Gives tree named fields →
    givenCount environment fields ≠ .float (.infinite negative)
  count : ∀ fields, Gives tree named fields →
    (∀ number, ¬CountsAs (givenCount environment fields) number) →
    (givenCount environment fields).isShowable = true
  number : ∀ fields number, Gives tree named fields →
    CountsAs (givenCount environment fields) number → number < 0 →
    (Value.int number).isShowable = true
  level : ∀ fields count, Gives tree named fields →
    Expects (givenCount environment fields) count →
    (givenLevel environment fields).isShowable = true

variable {tree environment named}

theorem NoSettings.refused {fault : Fault} (h : NoSettings tree named fault)
    (hforeseen : IsForeseen tree environment named) :
    ∃ cause, fault = .config cause := by
  cases h with
  | missing => exact ⟨_, rfl⟩
  | malformed => exact ⟨_, rfl⟩
  | notMapping => exact ⟨_, rfl⟩
  | nameTooLong hnode => exact absurd hnode hforeseen.name
  | directory hnode => exact absurd hnode hforeseen.file
  | notText hnode hdecoded =>
      exact absurd hdecoded (hforeseen.text _ _ hnode)
  | badValue hnode hdecoded =>
      exact absurd hdecoded (hforeseen.value _ _ hnode)
  | endless hnode hdecoded =>
      exact absurd hdecoded (hforeseen.nesting _ hnode)

theorem Spoils.refused {fields : List (Value × Value)} {fault : Fault}
    (h : Spoils environment fields fault) (hgives : Gives tree named fields)
    (hforeseen : IsForeseen tree environment named) :
    ∃ cause, fault = .config cause := by
  cases h with
  | docsRoot htext =>
      obtain ⟨text, hroot⟩ := hforeseen.root _ hgives
      exact absurd hroot (htext text)
  | expected _ hcount =>
      cases hcount with
      | notWhole => exact ⟨_, rfl⟩
      | negative => exact ⟨_, rfl⟩
      | infinite hvalue => exact absurd hvalue (hforeseen.finite _ _ hgives)
      | longValue hcount hlong =>
          exact absurd (hforeseen.count _ hgives hcount)
            (Bool.eq_false_iff.mp hlong)
      | longNegative hcount hnumber hlong =>
          exact absurd (hforeseen.number _ _ hgives hcount hnumber)
            (Bool.eq_false_iff.mp hlong)
  | logLevel _ hcount hlevel =>
      cases hlevel with
      | unknown => exact ⟨_, rfl⟩
      | longValue hlong =>
          exact absurd (hforeseen.level _ _ hgives hcount)
            (Bool.eq_false_iff.mp hlong)

theorem isForeseen_of_refused
    (h : ∀ fault, Fails tree environment named fault → ∃ cause,
      fault = .config cause) :
    IsForeseen tree environment named := by
  have hstack : Suffices tree environment named := by
    refine Classical.byContradiction fun hexhausted => ?_
    obtain ⟨cause, hcause⟩ := h _ (.exhausted hexhausted)
    cases hcause
  have hsettings {fault : Fault} (hfails : NoSettings tree named fault)
      (hfault : ∀ cause, fault ≠ .config cause) : False := by
    obtain ⟨cause, hcause⟩ := h fault (.settings hstack hfails)
    exact hfault cause hcause
  have hvalues {fields : List (Value × Value)} {fault : Fault}
      (hgives : Gives tree named fields)
      (hspoils : Spoils environment fields fault)
      (hfault : ∀ cause, fault ≠ .config cause) :
      False := by
    obtain ⟨cause, hcause⟩ := h fault (.values hstack hgives hspoils)
    exact hfault cause hcause
  have hroot (fields) (hgives : Gives tree named fields) :
      ∃ text, givenRoot environment fields = .text text := by
    refine Classical.byContradiction fun htext => ?_
    exact hvalues hgives (.docsRoot (not_exists.mp htext)) nofun
  constructor
  case stack => exact hstack
  case name => exact fun hnode => hsettings (.nameTooLong hnode) nofun
  case file => exact fun hnode => hsettings (.directory hnode) nofun
  case text =>
    exact fun _ _ hnode hdecoded => hsettings (.notText hnode hdecoded) nofun
  case value =>
    exact fun _ _ hnode hdecoded => hsettings (.badValue hnode hdecoded) nofun
  case nesting =>
    exact fun _ hnode hdecoded => hsettings (.endless hnode hdecoded) nofun
  case root => exact hroot
  case finite =>
    intro fields negative hgives hvalue
    obtain ⟨text, htext⟩ := hroot fields hgives
    exact hvalues hgives (.expected htext (.infinite hvalue)) nofun
  case count =>
    intro fields hgives hcount
    obtain ⟨text, htext⟩ := hroot fields hgives
    rw [← Bool.not_eq_false]
    exact fun hlong => hvalues hgives
      (.expected htext (.longValue hcount hlong)) nofun
  case number =>
    intro fields number hgives hcount hnumber
    obtain ⟨text, htext⟩ := hroot fields hgives
    rw [← Bool.not_eq_false]
    exact fun hlong => hvalues hgives
      (.expected htext (.longNegative hcount hnumber hlong)) nofun
  case level =>
    intro fields count hgives hcount
    obtain ⟨text, htext⟩ := hroot fields hgives
    rw [← Bool.not_eq_false]
    exact fun hlong => hvalues hgives
      (.logLevel htext hcount (.longValue hlong)) nofun

theorem isForeseen_iff :
    IsForeseen tree environment named ↔
      ∀ fault, Fails tree environment named fault → ∃ cause,
        fault = .config cause := by
  refine ⟨fun h fault hfails => ?_, isForeseen_of_refused⟩
  cases hfails with
  | exhausted hexhausted => exact absurd h.stack hexhausted
  | settings _ hsettings => exact hsettings.refused h
  | values _ hgives hspoils => exact hspoils.refused hgives h

end

end Config

/-! ## The program -/

namespace Command

section

variable [Host] {tree : FileTree} {environment : Environment}
  (question : Question) (choice : BundleChoice)

theorem answerQuestion_of_error {fault : Fault}
    (hload : (Config.load tree environment (choice.configFile.getD "")).1 =
      .error fault)
    (hfault : ∀ cause, fault ≠ .config cause) :
    let exit := answerQuestion tree environment question choice
    exit.status = 1 ∧ exit.displays = [] ∧ exit.fault = some fault := by
  unfold answerQuestion
  simp only [hload]
  cases fault with
  | config cause => exact absurd rfl (hfault cause)
  | _ => exact ⟨rfl, rfl, rfl⟩

theorem answerQuestion_of_refusal {cause : ConfigFault}
    (hload : (Config.load tree environment (choice.configFile.getD "")).1 =
      .error (.config cause)) :
    ∃ log, answerQuestion tree environment question choice =
      .shown tree 2 [refusal cause] log := by
  simp only [answerQuestion, hload]
  exact ⟨_, rfl⟩

theorem status_shown_ne_two (files : FileTree) (displays : List Console.Display)
    (log : Log) :
    (Exit.shown files 0 displays log).status ≠ 2 := by
  unfold Exit.shown
  split
  · exact (by decide : 0 ≠ 2)
  · exact (by decide : 1 ≠ 2)

theorem status_answerQuestion_of_ok {config : Config}
    (hload : (Config.load tree environment (choice.configFile.getD "")).1 =
      .ok config) :
    (answerQuestion tree environment question choice).status ≠ 2 := by
  simp only [answerQuestion, hload]
  split
  · exact (by decide : 1 ≠ 2)
  · split
    · exact (by decide : 1 ≠ 2)
    · exact status_shown_ne_two _ _ _

end

end Command

section

variable [Host] (tree : FileTree) (environment : Environment) (named : String)

/-- How a program that asks a question ends when its configuration cannot be
loaded. -/
structure Config.Ends (exit : Exit) : Prop where
  refused : ∀ cause, Fails tree environment named (.config cause) →
    Host.complaint? (Command.refusal cause) = none →
      exit.status = 2 ∧ exit.displays = [Command.refusal cause] ∧
        exit.fault = none
  unshown : ∀ cause message, Fails tree environment named (.config cause) →
    Host.complaint? (Command.refusal cause) = some message →
      exit.status = 1 ∧ exit.displays = [] ∧
        exit.fault = some (.console message)
  unforeseen : ∀ fault, Fails tree environment named fault →
      (∀ cause, fault ≠ .config cause) →
    exit.status = 1 ∧ exit.displays = [] ∧ exit.fault = some fault
  status_eq_two_iff : exit.status = 2 ↔ ∃ cause,
    Fails tree environment named (.config cause) ∧
      Host.complaint? (Command.refusal cause) = none

theorem Config.ends_answerQuestion (question : Question)
    (choice : BundleChoice) :
    Ends tree environment (choice.configFile.getD "")
      (Command.answerQuestion tree environment question choice) := by
  have hload := settles_load tree environment (choice.configFile.getD "")
  have hrefused (cause : ConfigFault)
      (h : Fails tree environment (choice.configFile.getD "")
        (.config cause)) :=
    Command.answerQuestion_of_refusal question choice ((hload.error _).mpr h)
  have hended (fault : Fault)
      (h : Fails tree environment (choice.configFile.getD "") fault)
      (hfault : ∀ cause, fault ≠ .config cause) :=
    Command.answerQuestion_of_error question choice
      ((hload.error _).mpr h) hfault
  constructor
  case refused =>
    intro cause h hshown
    obtain ⟨log, hexit⟩ := hrefused cause h
    rw [hexit, Exit.shown_of_no_complaint hshown]
    exact ⟨rfl, rfl, rfl⟩
  case unshown =>
    intro cause message h hcomplaint
    obtain ⟨log, hexit⟩ := hrefused cause h
    rw [hexit, Exit.shown_of_complaint hcomplaint]
    exact ⟨rfl, rfl, rfl⟩
  case unforeseen => exact hended
  case status_eq_two_iff =>
    constructor
    · intro hstatus
      cases hresult : (load tree environment (choice.configFile.getD "")).1 with
      | ok config =>
          exact absurd hstatus
            (Command.status_answerQuestion_of_ok question choice hresult)
      | error fault =>
          have hfails := (hload.error fault).mp hresult
          cases fault with
          | config cause =>
              refine ⟨cause, hfails, ?_⟩
              cases hcomplaint : Host.complaint? (Command.refusal cause) with
              | none => rfl
              | some message =>
                  obtain ⟨log, hexit⟩ := hrefused cause hfails
                  rw [hexit, Exit.shown_of_complaint hcomplaint] at hstatus
                  cases hstatus
          | _ =>
              exact absurd ((hended _ hfails nofun).1.symm.trans hstatus)
                (by decide)
    · rintro ⟨cause, h, hshown⟩
      obtain ⟨log, hexit⟩ := hrefused cause h
      rw [hexit, Exit.shown_of_no_complaint hshown]

/-- What loading a configuration comes to, for every file and all variables.  It
gives the configuration that the settings make, whose count is not negative, or
fails for one of the given reasons.  All failures are refusals exactly where
nothing else can be wrong.  A refusal ends the program with status 2 if the
console can show it, and any other failure ends it with status 1, without a
word. -/
theorem Config.load_outcomes :
    (∀ config, (load tree environment named).1 = .ok config ↔
      Suffices tree environment named ∧
        ∃ fields, Gives tree named fields ∧ Makes environment fields config) ∧
    (∀ config, (load tree environment named).1 = .ok config →
      (∀ count, config.expected = some count → 0 ≤ count) ∧
      config.logLevel.name ∈
        ["DEBUG", "INFO", "WARNING", "ERROR", "CRITICAL"]) ∧
    (∀ fault, (load tree environment named).1 = .error fault ↔
      Fails tree environment named fault) ∧
    (IsForeseen tree environment named ↔
      ∀ fault, Fails tree environment named fault → ∃ cause,
        fault = .config cause) ∧
    ∀ arguments question choice,
      Invocation.ofArguments arguments = .run (.ask question choice) →
      choice.configFile.getD "" = named →
      Ends tree environment named
        (Exit.ofArguments tree environment arguments) := by
  have hload := settles_load tree environment named
  refine ⟨hload.ok, ?_, hload.error, isForeseen_iff, ?_⟩
  · intro config hconfig
    obtain ⟨-, fields, -, -, hexpected, -⟩ := (hload.ok config).mp hconfig
    exact ⟨fun count hcount => (hcount ▸ hexpected).nonneg,
      by cases config.logLevel <;> decide⟩
  · rintro arguments question choice hrun rfl
    have hexit : Exit.ofArguments tree environment arguments =
        Command.answerQuestion tree environment question choice := by
      rw [Exit.ofArguments, hrun]
      rfl
    rw [hexit]
    exact ends_answerQuestion tree environment question choice

end

/-! ## An infinite count -/

namespace Config

def infiniteText : List Char := "expected_fragments: .inf\n".toList

/-- The usual file says that infinitely many fragments are expected. -/
def infiniteTree : FileTree :=
  FileTree.empty.put ["docindex.yaml"] (.file (Text.encodeUtf8 infiniteText))

def isNumberUnder (name : String) (number : Number.Binary64) :
    Except Yaml.DecodeFault Value → Bool
  | .ok (.mapping [(.text key, .float given)]) => key == name && given == number
  | _ => false

theorem eq_of_isNumberUnder {name : String} {number : Number.Binary64}
    {decoded : Except Yaml.DecodeFault Value}
    (h : isNumberUnder name number decoded = true) :
    decoded = .ok (.mapping [(.text name, .float number)]) := by
  unfold isNumberUnder at h
  split at h
  · obtain ⟨hkey, hgiven⟩ := Bool.and_eq_true_iff.mp h
    rw [beq_iff_eq] at hkey hgiven
    rw [hkey, hgiven]
  · cases h

theorem gives_infinite :
    Gives infiniteTree
      "" [(.text "expected_fragments", .float (.infinite false))] := by
  have hpath : settingsPath "" = ⟨.relative, ["docindex.yaml"]⟩ := by
    decide +kernel
  have hplace : infiniteTree.place ⟨.relative, ["docindex.yaml"]⟩ =
      .ok ["docindex.yaml"] :=
    FileTree.place_eq_ok_iff.mpr ⟨by decide, by decide, rfl⟩
  have hnode : infiniteTree.node (settingsPath "") =
      .ok (.file (Text.encodeUtf8 infiniteText)) := by
    rw [hpath]
    exact FileTree.node_of_place hplace (by decide)
  exact .mapping hnode (eq_of_isNumberUnder (by decide +kernel))

/-- The fault is none that a configuration is refused for, and it ends the
program. -/
theorem load_infinite :
    (load infiniteTree ⟨none, none, none⟩ "").1 = .error .infiniteCount ∧
      (Exit.ofArguments infiniteTree ⟨none, none, none⟩ ["traits"]).status = 1 ∧
      (Exit.ofArguments infiniteTree ⟨none, none, none⟩ ["traits"]).fault =
        some .infiniteCount := by
  have hroot : givenRoot ⟨none, none, none⟩
      [(.text "expected_fragments", .float (.infinite false))] =
        .text "docs" := by
    simp [givenRoot, setting, Value.field?]
  have hstack : Suffices infiniteTree ⟨none, none, none⟩ "" :=
    Host.isExhausted_ample _ _ _
  have hfails : Fails infiniteTree ⟨none, none, none⟩ "" .infiniteCount :=
    .values hstack gives_infinite (.expected hroot (.infinite rfl))
  have hload := ((settles_load _ _ _).error _).mpr hfails
  obtain ⟨hstatus, -, hfault⟩ :=
    Command.answerQuestion_of_error .traits ⟨none, none⟩ hload nofun
  have hexit : Exit.ofArguments infiniteTree ⟨none, none, none⟩ ["traits"] =
      Command.answerQuestion infiniteTree ⟨none, none, none⟩ .traits
        ⟨none, none⟩ := by
    have hrun : Invocation.ofArguments ["traits"] =
        .run (.ask .traits ⟨none, none⟩) := by decide
    rw [Exit.ofArguments, hrun]
    rfl
  rw [hexit]
  exact ⟨hload, hstatus, hfault⟩

end Config

end TraitIndex
