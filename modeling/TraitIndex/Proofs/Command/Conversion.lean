import Mathlib.Data.List.Permutation
import TraitIndex.Proofs.Bundle.Contents
import TraitIndex.Proofs.Bundle.Loading
import TraitIndex.Proofs.Command.Exits
import TraitIndex.Proofs.Outcome
import TraitIndex.Proofs.Script.Records
import TraitIndex.Proofs.Text.Blocks
import TraitIndex.Proofs.Yaml.Parsing

/-!
# Converting a file and loading it

A file is converted by reading it block by block and loaded by reading it as a
whole.  Where the stack is deep enough for both, they give the same fragment,
and where one fails the other does.  They differ in the faults that are
foreseen, and in which fault is met first when a file of YAML cannot be read to
its end.
-/

namespace TraitIndex.Command

/-! ## Faults -/

/-- What a fault of the loader is to whoever asked for a script. -/
def unconverted : Fault → Unconverted
  | .file fault => unreadFile fault
  | .format (.badText _ _ cause) => .unreadable (.text cause)
  | .format fault => .unreadable (.format fault)
  | fault => .unforeseen fault

/-- All that loading goes on after is foreseen, except for bytes that are no
text. -/
theorem unconverted_of_isSkippable {fault : Fault}
    (h : fault.isSkippable = true)
    (htext : ∀ cause, fault ≠ .file (.notText cause)) :
    ∃ reason, unconverted fault = .unreadable reason := by
  cases fault with
  | file cause =>
      cases cause with
      | notText cause => exact absurd rfl (htext cause)
      | nullByte => cases h
      | _ => exact ⟨_, rfl⟩
  | format cause => cases cause <;> exact ⟨_, rfl⟩
  | _ => cases h

theorem unconverted_of_not_isSkippable {fault : Fault}
    (h : fault.isSkippable = false) :
    unconverted fault = .unforeseen fault := by
  cases fault with
  | file cause =>
      cases cause with
      | nullByte => rfl
      | _ => cases h
  | format cause => cases h
  | _ => rfl

/-! ## Documents -/

/-- A file of YAML that cannot be read to its end: its bytes are no text, or a
character may not occur. -/
def BreaksOff (tree : FileTree) (path : Path) : Prop :=
  path.suffix ≠ ".json" ∧
    ((∃ cause, tree.readText path = .error (.notText cause)) ∨
      ∃ text, tree.readText path = .ok text ∧ ∃ c ∈ text,
        Yaml.isAllowed c = false)

def loadedDocument (tree : FileTree) (path : Path) : Except Fault Value := do
  let text ← (tree.readText path).mapError Fault.file
  Structured.decode (String.ofList text) path.name (Bundle.formatOf path)

section

variable [Host] {tree : FileTree} {path : Path}

/-- Whether a structured file can be taken apart by the loader. -/
def IsLoadable (tree : FileTree) (path : Path) : Prop :=
  Host.isExhausted tree path (.structured (Bundle.formatOf path)) = false

/-- Whether a structured file can be taken apart to be converted. -/
def IsConvertible (tree : FileTree) (path : Path) : Prop :=
  Host.isExhausted tree path (.conversion (Bundle.formatOf path)) = false

theorem isLoadable_of_readStructured {fragment : Fragment}
    (h : Bundle.readStructured tree path none = .ok fragment) :
    IsLoadable tree path := by
  unfold Bundle.readStructured at h
  split at h
  · cases h
  · obtain ⟨name, -, h⟩ := exists_of_bind_eq_ok h
    obtain ⟨text, htext, -⟩ := exists_of_bind_eq_ok h
    unfold Bundle.readText at htext
    split at htext
    · cases htext
    · split at htext
      · cases htext
      · next hstack => exact (Bool.not_eq_true _).mp hstack

theorem readStructured_eq_loadedDocument (h : Bundle.isStructured path = true)
    (hstack : IsLoadable tree path) :
    Bundle.readStructured tree path none =
      loadedDocument tree path >>= fun document =>
        Structured.ofValue document path.name "" := by
  have htext : Bundle.readText tree path (.structured (Bundle.formatOf path)) =
      (tree.readText path).mapError Fault.file >>= fun text =>
        .ok (String.ofList text) := by
    unfold Bundle.readText
    rw [hstack]
    cases tree.readText path <;> rfl
  unfold Bundle.readStructured loadedDocument Structured.read
    Bundle.fragmentName
  rw [h, htext]
  cases tree.readText path <;> rfl

end

theorem readJson_eq_mapError {tree : FileTree} {path : Path}
    (h : path.suffix = ".json") :
    readJson tree path = (loadedDocument tree path).mapError unconverted := by
  have hformat : Bundle.formatOf path = Structured.jsonFormat := if_pos h
  unfold readJson loadedDocument
  rw [hformat]
  cases tree.readText path with
  | error fault => rfl
  | ok text =>
      have hdecode : Json.decode (String.ofList text) =
          Json.decodeChars text := by
        rw [Json.decode, String.toList_ofList]
      simp only [Structured.decode, hdecode, Except.mapError, bind,
        Except.bind, if_pos]
      cases Json.decodeChars text with
      | ok document => rfl
      | error fault => cases fault <;> rfl

section

variable {tree : FileTree} {path : Path} {bytes : List UInt8}

theorem readText_of_decodeUtf8 {text : List Char}
    (hbytes : tree.readBytes path = .ok bytes)
    (h : Text.decodeUtf8 bytes = .ok text) :
    tree.readText path = .ok (Text.unifyLineEnds text) := by
  unfold FileTree.readText
  rw [hbytes]
  simp only [bind, Except.bind, h]
  rfl

theorem readText_of_decodeUtf8_error {cause : Text.Utf8Fault}
    (hbytes : tree.readBytes path = .ok bytes)
    (h : Text.decodeUtf8 bytes = .error cause) :
    tree.readText path = .error (.notText cause) := by
  unfold FileTree.readText
  rw [hbytes]
  simp only [bind, Except.bind, h]
  rfl

theorem readText_of_readBytes_error {fault : FileFault}
    (h : tree.readBytes path = .error fault) :
    tree.readText path = .error fault := by
  unfold FileTree.readText
  rw [h]
  rfl

end

/-- In pieces a text is read as it is read as a whole, if all its characters may
occur. -/
theorem decodeDescriptors_piecesOfBytes {bytes : List UInt8} {text : List Char}
    (hdecode : Text.decodeUtf8 bytes = .ok text)
    (h : ∀ c ∈ Text.unifyLineEnds text, Yaml.isAllowed c = true) :
    Yaml.decodeDescriptors (Text.piecesOfBytes bytes) =
      Yaml.decodeDescriptors (.ofText (Text.unifyLineEnds text)) := by
  obtain ⟨hfault, hpieces⟩ := Text.piecesOfBytes_of_ok hdecode
  refine Yaml.decodeLevels_congr _ hfault rfl ?_ (hpieces ▸ h)
  rw [hpieces]
  exact (List.append_nil _).symm

theorem readYaml_eq_mapError {tree : FileTree} {path : Path}
    (hsuffix : path.suffix ≠ ".json") (h : ¬BreaksOff tree path) :
    readYaml tree path = (loadedDocument tree path).mapError unconverted := by
  have hformat : Bundle.formatOf path = "yaml" := if_neg hsuffix
  obtain ⟨htext, hallowed⟩ := not_or.1 (not_and.1 h hsuffix)
  unfold readYaml loadedDocument
  rw [hformat]
  cases hbytes : tree.readBytes path with
  | error fault =>
      rw [readText_of_readBytes_error hbytes]
      rfl
  | ok bytes =>
      cases hdecode : Text.decodeUtf8 bytes with
      | error cause =>
          exact absurd ⟨cause, readText_of_decodeUtf8_error hbytes hdecode⟩
            htext
      | ok text =>
          have hread := readText_of_decodeUtf8 hbytes hdecode
          have hwhole := decodeDescriptors_piecesOfBytes hdecode fun c hc =>
            (Bool.not_eq_false _).mp fun hnot =>
              hallowed ⟨_, hread, c, hc, hnot⟩
          have hyaml : "yaml" ≠ Structured.jsonFormat := by decide
          simp only [hread, Structured.decode, String.toList_ofList,
            if_neg hyaml, Except.mapError, bind, Except.bind, hwhole]
          cases Yaml.decodeDescriptors (.ofText (Text.unifyLineEnds text)) with
          | ok document => rfl
          | error fault => cases fault <;> rfl

theorem loadedDocument_of_breaksOff {tree : FileTree} {path : Path}
    (h : BreaksOff tree path) :
    ∃ fault, loadedDocument tree path = .error fault := by
  obtain ⟨hsuffix, ⟨cause, htext⟩ | ⟨text, htext, c, hc, hnot⟩⟩ := h
  · refine ⟨.file (.notText cause), ?_⟩
    unfold loadedDocument
    rw [htext]
    rfl
  · have hformat : Bundle.formatOf path ≠ Structured.jsonFormat := by
      rw [Bundle.formatOf, if_neg hsuffix]
      decide
    obtain ⟨fault, hfault⟩ := Yaml.exists_fault_of_decodeLevels
      [false, true, false]
      (.inr ⟨c, List.mem_append_left [] hc, hnot⟩ :
        (Text.Pieces.ofText text).fault ≠ none ∨ _)
    unfold loadedDocument
    rw [htext]
    simp only [Structured.decode, String.toList_ofList, if_neg hformat, bind,
      Except.bind, Except.mapError, Yaml.decodeDescriptors, hfault]
    cases fault <;> exact ⟨_, rfl⟩

/-- Where a file breaks off is met block by block, but it is met. -/
theorem readYaml_of_breaksOff {tree : FileTree} {path : Path}
    (h : BreaksOff tree path) :
    ∃ reason, readYaml tree path = .error reason := by
  unfold readYaml
  cases hbytes : tree.readBytes path with
  | error fault => exact ⟨_, rfl⟩
  | ok bytes =>
      have hbreaks : (Text.piecesOfBytes bytes).fault ≠ none ∨
          ∃ c ∈ (Text.piecesOfBytes bytes).pieces.flatten,
            Yaml.isAllowed c = false := by
        cases hdecode : Text.decodeUtf8 bytes with
        | error cause =>
            obtain ⟨met, hmet⟩ := Text.piecesOfBytes_of_error hdecode
            exact .inl (hmet ▸ Option.some_ne_none met)
        | ok text =>
            have hread := readText_of_decodeUtf8 hbytes hdecode
            obtain ⟨-, ⟨cause, htext⟩ | ⟨found, htext, c, hc, hnot⟩⟩ := h
            · rw [hread] at htext
              cases htext
            · obtain rfl := Except.ok.inj (hread.symm.trans htext)
              exact .inr ⟨c,
                (Text.piecesOfBytes_of_ok hdecode).2.symm ▸ hc, hnot⟩
      obtain ⟨fault, hfault⟩ :=
        Yaml.exists_fault_of_decodeLevels [false, true, false] hbreaks
      simp only [bind, Except.bind, Except.mapError,
        Yaml.decodeDescriptors, hfault]
      cases fault <;> exact ⟨_, rfl⟩

theorem readDocument_eq_mapError {tree : FileTree} {path : Path}
    (h : ¬BreaksOff tree path) :
    readDocument tree path =
      (loadedDocument tree path).mapError unconverted := by
  unfold readDocument
  split
  · next hsuffix => exact readJson_eq_mapError hsuffix
  · next hsuffix => exact readYaml_eq_mapError hsuffix h

/-! ## Fragments -/

theorem error_of_ofValue {document : Value} {source defaultTrait : String}
    {fault : Fault}
    (h : Structured.ofValue document source defaultTrait = .error fault) :
    fault = .format (.notMapping source) ∨ ∃ cause, fault = .value cause := by
  unfold Structured.ofValue at h
  split at h
  · next fields =>
      cases hentries : fields.mapM (Structured.entryOfField defaultTrait) with
      | ok entries =>
          rw [hentries] at h
          cases h
      | error cause =>
          rw [hentries] at h
          exact .inr ⟨cause, (Except.error.inj h).symm⟩
  · exact .inl (Except.error.inj h).symm

section

variable [Host] {tree : FileTree} {path : Path}

theorem readStructured_eq_mapError (hkind : Bundle.isStructured path = true)
    (hstack : IsLoadable tree path) (h : ¬BreaksOff tree path) :
    readStructured tree path "" =
      (Bundle.readStructured tree path none).mapError unconverted := by
  rw [readStructured_eq_loadedDocument hkind hstack, mapError_bind,
    readStructured, readDocument_eq_mapError h]
  congr 1
  funext document
  cases hvalue : Structured.ofValue document path.name "" with
  | ok fragment => rfl
  | error fault => obtain rfl | ⟨cause, rfl⟩ := error_of_ofValue hvalue <;> rfl

theorem readStructured_of_breaksOff (hkind : Bundle.isStructured path = true)
    (hstack : IsLoadable tree path) (h : BreaksOff tree path) :
    (∃ fault, Bundle.readStructured tree path none = .error fault) ∧
      ∃ reason, readStructured tree path "" = .error reason := by
  obtain ⟨fault, hloaded⟩ := loadedDocument_of_breaksOff h
  obtain ⟨reason, hread⟩ := readYaml_of_breaksOff h
  rw [readStructured_eq_loadedDocument hkind hstack, hloaded, readStructured,
    readDocument, if_neg h.1, hread]
  exact ⟨⟨fault, rfl⟩, reason, rfl⟩

theorem readStructured_of_loaded {fragment : Fragment}
    (hkind : Bundle.isStructured path = true)
    (h : Bundle.readStructured tree path none = .ok fragment) :
    readStructured tree path "" = .ok fragment := by
  have hstack := isLoadable_of_readStructured h
  have hsound : ¬BreaksOff tree path := by
    intro hbreaks
    obtain ⟨fault, hfault⟩ :=
      (readStructured_of_breaksOff hkind hstack hbreaks).1
    cases h.symm.trans hfault
  rw [readStructured_eq_mapError hkind hstack hsound, h]
  rfl

theorem exists_reason_of_not_loaded {fault : Fault}
    (hkind : Bundle.isStructured path = true) (hstack : IsLoadable tree path)
    (h : Bundle.readStructured tree path none = .error fault) :
    ∃ reason, readStructured tree path "" = .error reason ∧
      (¬BreaksOff tree path → reason = unconverted fault) := by
  by_cases hbreaks : BreaksOff tree path
  · obtain ⟨reason, hreason⟩ :=
      (readStructured_of_breaksOff hkind hstack hbreaks).2
    exact ⟨reason, hreason, fun hsound => absurd hbreaks hsound⟩
  · refine ⟨unconverted fault, ?_, fun _ => rfl⟩
    rw [readStructured_eq_mapError hkind hstack hbreaks, h]
    rfl

/-- What the loader reads can be written as a script. -/
theorem exists_script_of_loaded {fragment : Fragment}
    (h : Bundle.readStructured tree path none = .ok fragment) :
    ∃ script, Script.write fragment = .ok script := by
  unfold Bundle.readStructured at h
  split at h
  · cases h
  · obtain ⟨name, -, h⟩ := exists_of_bind_eq_ok h
    obtain ⟨text, -, h⟩ := exists_of_bind_eq_ok h
    obtain ⟨crates, rfl⟩ := Structured.exists_texts_of_read h
    exact ⟨_, Script.write_ofTexts crates (.text name)⟩

end

/-! ## The program -/

def failureLine (reason : Unreadable) : Console.Display :=
  .line ("  [red]Failed to parse:[/] " ++ reason.wording)

section

variable [Host]

/-- How the program ends on a file that it does not convert. -/
def Unconverted.exit (tree : FileTree) : Unconverted → Exit
  | .unreadable reason => .shown tree 1 [failureLine reason] []
  | .unforeseen fault => .failed tree fault []

/-- Whatever goes wrong, nothing is written. -/
theorem Unconverted.exit_spec (tree : FileTree) (reason : Unconverted) :
    (reason.exit tree).status = 1 ∧ (reason.exit tree).output = "" ∧
      (reason.exit tree).files = tree ∧ (reason.exit tree).log = [] := by
  cases reason with
  | unreadable reason => exact Exit.shown_failed tree _ []
  | unforeseen fault => exact ⟨rfl, rfl, rfl, rfl⟩

variable {tree : FileTree} {file traitName : String}

/-- Where the stack is used up nothing is foreseen, and nothing is written. -/
theorem convertFile_of_exhausted (h : ¬IsConvertible tree (.ofText file))
    (output : Option String) :
    convertFile tree file traitName output = .failed tree .recursion [] := by
  have hconverted : convertedFile tree (.ofText file) traitName =
      .error (.unforeseen .recursion) := by
    rw [convertedFile, if_pos ((Bool.not_eq_false _).mp h)]
    rfl
  rw [convertFile, hconverted]

section

variable (hstack : IsConvertible tree (.ofText file))

include hstack

theorem convertFile_of_error {reason : Unconverted}
    (h : readStructured tree (.ofText file) traitName = .error reason)
    (output : Option String) :
    convertFile tree file traitName output = reason.exit tree := by
  have hconverted : convertedFile tree (.ofText file) traitName =
      .error reason := by
    rw [convertedFile, if_neg (Bool.eq_false_iff.mp hstack), h]
    rfl
  unfold convertFile
  rw [hconverted]
  cases reason <;> dsimp only [Unconverted.exit, failureLine]

theorem convertFile_of_ok {fragment : Fragment} {script : String}
    (h : readStructured tree (.ofText file) traitName = .ok fragment)
    (hscript : Script.write fragment = .ok script) (output : Option String) :
    convertFile tree file traitName output =
      match Question.given output with
      | none => .printed tree (script ++ "\n")
      | some target => writeScript tree (script ++ "\n") target := by
  have hconverted : convertedFile tree (.ofText file) traitName =
      .ok (script ++ "\n") := by
    rw [convertedFile, if_neg (Bool.eq_false_iff.mp hstack), h]
    simp only [pure, Except.pure, bind, Except.bind, hscript]
  unfold convertFile
  rw [hconverted]
  cases Question.given output <;> dsimp only

end

theorem writeScript_of_isEncodable {script : String}
    (h : Text.isEncodable script = true) (target : String) :
    writeScript tree (script ++ "\n") target =
      match tree.write (.ofText target)
        (Text.encodeUtf8 (script ++ "\n").toList) with
      | .error fault => .failed tree (.file fault) []
      | .ok written =>
          .shown written
            0 [.line ("[green]Legacy fragment written to:[/] " ++ target)]
              [] := by
  have hencodable := Exit.isEncodable_line h
  cases hwritten : tree.write (.ofText target)
    (Text.encodeUtf8 (script ++ "\n").toList) with
  | error fault => simp only [writeScript, if_pos hencodable, hwritten]
  | ok written => simp only [writeScript, if_pos hencodable, hwritten]

theorem exit_of_convert {arguments : List String} {output : Option String}
    (environment : Environment)
    (h : Invocation.ofArguments arguments =
      .run (.convert file traitName output)) :
    Exit.ofArguments tree environment arguments =
      convertFile tree file traitName output := by
  rw [Exit.ofArguments, h]
  rfl

theorem convertFile_of_loaded {fragment : Fragment} {output : Option String}
    (hkind : Bundle.isStructured (.ofText file) = true)
    (hstack : IsConvertible tree (.ofText file))
    (h : Bundle.readStructured tree (.ofText file) none = .ok fragment) :
    ∃ script, Script.write fragment = .ok script ∧
      (fragment.IsEncodable →
        (Question.given output = none →
          convertFile tree file "" output =
            ⟨0, [], script ++ "\n", [], tree, none⟩) ∧
        ∀ target, Question.given output = some target →
          convertFile tree file "" output =
            match tree.write (.ofText target)
              (Text.encodeUtf8 (script ++ "\n").toList) with
            | .error fault => .failed tree (.file fault) []
            | .ok written =>
                .shown written 0
                  [.line ("[green]Legacy fragment written to:[/] " ++ target)]
                    []) := by
  obtain ⟨script, hscript⟩ := exists_script_of_loaded h
  have hconverted :=
    convertFile_of_ok hstack (readStructured_of_loaded hkind h) hscript output
  refine ⟨script, hscript, fun hencodable => ?_⟩
  have hwhole := Script.isEncodable_write hencodable hscript
  refine ⟨fun hgiven => ?_, fun target hgiven => ?_⟩
  · rw [hconverted, hgiven]
    exact Exit.printed_line hwhole
  · rw [hconverted, hgiven]
    exact writeScript_of_isEncodable hwhole target

theorem convertFile_of_not_loaded {fault : Fault} (output : Option String)
    (hkind : Bundle.isStructured (.ofText file) = true)
    (hloadable : IsLoadable tree (.ofText file))
    (hstack : IsConvertible tree (.ofText file))
    (h : Bundle.readStructured tree (.ofText file) none = .error fault) :
    ∃ reason : Unconverted, convertFile tree file "" output = reason.exit tree ∧
      (¬BreaksOff tree (.ofText file) → reason = unconverted fault) := by
  obtain ⟨reason, hreason, hsame⟩ :=
    exists_reason_of_not_loaded hkind hloadable h
  exact ⟨reason, convertFile_of_error hstack hreason output, hsame⟩

/-- Converting a file succeeds exactly when loading it does, with the script of
the same fragment, and a failure writes nothing.  Which fault is met is known
where the file does not break off: then all that loading goes on after is told,
except for bytes that are no text.  All this holds as far as the stack is deep
enough, no text of the fragment holds a lone surrogate and the console can show
the line. -/
theorem conversion_follows_loading {environment : Environment}
    {arguments : List String} {output : Option String}
    (hkind : Bundle.isStructured (.ofText file) = true)
    (harguments : Invocation.ofArguments arguments =
      .run (.convert file "" output))
    (hstack : IsConvertible tree (.ofText file)) :
    (∀ fragment, Bundle.readStructured tree (.ofText file) none = .ok fragment →
      ∃ script, Script.write fragment = .ok script ∧
        (fragment.IsEncodable →
          (Question.given output = none →
            Exit.ofArguments tree environment arguments =
              ⟨0, [], script ++ "\n", [], tree, none⟩) ∧
          ∀ target, Question.given output = some target →
            Exit.ofArguments tree environment arguments =
              match tree.write (.ofText target)
                (Text.encodeUtf8 (script ++ "\n").toList) with
              | .error fault => .failed tree (.file fault) []
              | .ok written =>
                  .shown written 0
                    [.line ("[green]Legacy fragment written to:[/] " ++ target)]
                      [])) ∧
      ∀ fault, Bundle.readStructured tree (.ofText file) none = .error fault →
        IsLoadable tree (.ofText file) →
        (Exit.ofArguments tree environment arguments).status = 1 ∧
          (Exit.ofArguments tree environment arguments).output = "" ∧
          (Exit.ofArguments tree environment arguments).files = tree ∧
          (Exit.ofArguments tree environment arguments).log = [] ∧
          (¬BreaksOff tree (.ofText file) →
            (fault.isSkippable = true →
                (∀ cause, fault ≠ .file (.notText cause)) →
              ∃ reason, unconverted fault = .unreadable reason ∧
                (Host.complaint? (failureLine reason) = none →
                  Exit.ofArguments tree environment arguments =
                    ⟨1, [failureLine reason], "", [], tree, none⟩)) ∧
            ((fault.isSkippable = false ∨ ∃ cause,
              fault = .file (.notText cause)) →
              Exit.ofArguments tree environment arguments =
                .failed tree fault [])) := by
  rw [exit_of_convert environment harguments]
  refine ⟨fun fragment => convertFile_of_loaded hkind hstack,
    fun fault hfault hloadable => ?_⟩
  obtain ⟨reason, hexit, hsame⟩ :=
    convertFile_of_not_loaded output hkind hloadable hstack hfault
  rw [hexit]
  obtain ⟨hstatus, houtput, hfiles, hlog⟩ := reason.exit_spec tree
  refine ⟨hstatus, houtput, hfiles, hlog, fun hsound =>
    ⟨fun hskippable htext => ?_, ?_⟩⟩
  · obtain ⟨told, htold⟩ := unconverted_of_isSkippable hskippable htext
    refine ⟨told, htold, fun hshown => ?_⟩
    rw [hsame hsound, htold, Unconverted.exit,
      Exit.shown_of_no_complaint hshown]
  · rintro (hstop | ⟨cause, rfl⟩)
    · rw [hsame hsound, unconverted_of_not_isSkippable hstop, Unconverted.exit]
    · rw [hsame hsound, unconverted, unreadFile, Unconverted.exit]

end

/-! ## A tree of one file -/

def fileTree (content : List UInt8) : FileTree :=
  FileTree.empty.put ["a.json"] (.file content)

theorem isStructured_json :
    Bundle.isStructured (.ofText "a.json") = true := by decide

theorem arguments_json :
    Invocation.ofArguments ["convert", "a.json"] =
      .run (.convert "a.json" "" none) := by
  decide

theorem place_fileTree (content : List UInt8) :
    (fileTree content).place (.ofText "a.json") = .ok ["a.json"] := by
  have hpath : Path.ofText "a.json" = ⟨.relative, ["a.json"]⟩ := by decide
  rw [hpath]
  exact FileTree.place_eq_ok_iff.mpr ⟨by decide, by decide, rfl⟩

theorem nodeAt?_fileTree (content : List UInt8) :
    (fileTree content).nodeAt? ["a.json"] = some (.file content) := rfl

theorem readStructured_fileTree (content : List UInt8) :
    Bundle.readStructured (fileTree content) (.ofText "a.json") none =
      Bundle.readText (fileTree content) (.ofText "a.json")
        (.structured "json") >>= fun text =>
        Structured.read text "a.json" "json" := by
  have hname : (Path.ofText "a.json").name = "a.json" := by decide
  have hformat : Bundle.formatOf (.ofText "a.json") = "json" := by decide
  unfold Bundle.readStructured Bundle.fragmentName
  rw [isStructured_json, hname, hformat]
  rfl

theorem readStructured_lone_byte :
    Bundle.readStructured (fileTree [0xFF]) (.ofText "a.json") none =
      .error (.file (.notText ⟨0xFF, 0, 0, .startByte⟩)) := by
  have hbytes : (fileTree [0xFF]).readBytes (.ofText "a.json") =
      .ok [0xFF] := by
    rw [FileTree.readBytes,
      FileTree.node_of_place (place_fileTree _) (nodeAt?_fileTree [0xFF])]
  have hdecode :
      Text.decodeUtf8 [0xFF] = .error ⟨0xFF, 0, 0, .startByte⟩ := by decide
  rw [readStructured_fileTree, Bundle.readText,
    readText_of_decodeUtf8_error hbytes hdecode]
  rfl

/-- A byte that begins no character: loading goes on after such a file, while
converting it ends with a fault that was not foreseen. -/
theorem convert_of_lone_byte :
    Bundle.readStructured (fileTree [0xFF]) (.ofText "a.json") none =
        .error (.file (.notText ⟨0xFF, 0, 0, .startByte⟩)) ∧
      (Fault.file (.notText ⟨0xFF, 0, 0, .startByte⟩)).isSkippable = true ∧
      (Exit.ofArguments
        (fileTree [0xFF]) default ["convert", "a.json"]).displays = [] ∧
      (Exit.ofArguments (fileTree [0xFF]) default ["convert", "a.json"]).fault =
        some (.file (.notText ⟨0xFF, 0, 0, .startByte⟩)) := by
  have hsound : ¬BreaksOff (fileTree [0xFF]) (.ofText "a.json") :=
    fun h => h.1 (by decide)
  have hread := readStructured_lone_byte
  have hloadable : IsLoadable (fileTree [0xFF]) (.ofText "a.json") :=
    Host.isExhausted_ample _ _ _
  obtain ⟨reason, hexit, hsame⟩ :=
    convertFile_of_not_loaded none isStructured_json hloadable
      (Host.isExhausted_ample _ _ _) hread
  rw [exit_of_convert _ arguments_json, hexit, hsame hsound]
  exact ⟨hread, rfl, rfl, rfl⟩

def implementorText : List Char :=
  "\x7b\"b\": \x7b\"trait\": \"T\", \"type\": \"S\"\x7d\x7d".toList

def implementorFragment : Fragment :=
  .ofTexts [("b", [⟨"T", "S", "b", "", false, ""⟩])] (.text "a.json")

def implementorTree : FileTree := fileTree (Text.encodeUtf8 implementorText)

theorem read_implementorText :
    Structured.read (String.ofList implementorText) "a.json" "json" =
      .ok implementorFragment := by
  have hdecode : Json.decodeChars implementorText =
      .ok (.mapping [(.text "b", .mapping [
        (.text "trait", .text "T"), (.text "type", .text "S")])]) := by
    cbv
  simp only [Structured.read, Structured.decode, Structured.jsonFormat, if_true,
    Json.decode, String.toList_ofList, hdecode]
  rfl

theorem readStructured_implementorTree :
    Bundle.readStructured implementorTree (.ofText "a.json") none =
      .ok implementorFragment := by
  have hdecoded : (Text.decodeUtf8 (Text.encodeUtf8 implementorText)).toOption =
      some implementorText := by
    decide
  have htext : Bundle.readText implementorTree (.ofText "a.json")
      (.structured "json") = .ok (String.ofList implementorText) :=
    Bundle.readText_of_place (place_fileTree _) (nodeAt?_fileTree _) hdecoded
      (by decide) rfl
  rw [implementorTree] at htext ⊢
  rw [readStructured_fileTree, htext]
  simp only [bind, Except.bind, read_implementorText]

theorem isEncodable_implementorFragment : implementorFragment.IsEncodable := by
  refine ⟨_, _, rfl, List.forall_mem_singleton.mpr ⟨by decide, ?_⟩⟩
  exact List.forall_mem_singleton.mpr
    ⟨by decide, by decide, by decide, by decide, by decide⟩

theorem conversion_follows_loading_implementor :
    Bundle.isStructured (.ofText "a.json") = true ∧
      Invocation.ofArguments ["convert", "a.json"] =
        .run (.convert "a.json" "" none) ∧
      IsConvertible implementorTree (.ofText "a.json") ∧
      ∃ script,
        Bundle.readStructured implementorTree (.ofText "a.json") none =
          .ok implementorFragment ∧
        Script.write implementorFragment = .ok script ∧
        Exit.ofArguments implementorTree default ["convert", "a.json"] =
          ⟨0, [], script ++ "\n", [], implementorTree, none⟩ := by
  have hconvertible : IsConvertible implementorTree (.ofText "a.json") :=
    Host.isExhausted_ample _ _ _
  obtain ⟨script, hscript, hexit⟩ :=
    (conversion_follows_loading isStructured_json arguments_json hconvertible).1
      implementorFragment readStructured_implementorTree
  exact ⟨isStructured_json, arguments_json, hconvertible, script,
    readStructured_implementorTree, hscript,
    (hexit isEncodable_implementorFragment).1 rfl⟩

end TraitIndex.Command
