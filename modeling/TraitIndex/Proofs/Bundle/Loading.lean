import TraitIndex.Proofs.Bundle.Faults
import TraitIndex.Proofs.Bundle.Scanning
import TraitIndex.Proofs.Registry.Merging

/-!
# What loading a bundle comes to

Files are gone through one after the other.  A file that cannot be opened or is
not in its format is passed over; a value in a file that cannot be used as what
it should be, or a file that nests too deep, puts an end to loading.  So loading
succeeds exactly when there is no such file, and then every file has been taken
up or passed over with its reason.
-/

namespace TraitIndex

theorem Fault.isSkippable_iff {fault : Fault} :
    fault.isSkippable = true ↔
      (∃ cause, fault = .format cause) ∨ ∃ cause, cause ≠ .nullByte ∧
        fault = .file cause := by
  unfold isSkippable
  split <;> simp_all

namespace Bundle

/-! ## Going through readings -/

/-- A reading that loading survives: there is a value, or the file cannot be
opened or is not in its format. -/
def Reading.IsPassable {α : Type} (reading : Reading α) : Prop :=
  ∀ fault, reading.result = .error fault →
    (∃ cause, fault = .format cause) ∨ ∃ cause, cause ≠ .nullByte ∧
      fault = .file cause

theorem Reading.isSkippable_of_isPassable {α : Type} {reading : Reading α}
    {fault : Fault} (h : reading.IsPassable)
    (hresult : reading.result = .error fault) :
    fault.isSkippable = true :=
  Fault.isSkippable_iff.mpr (h fault hresult)

theorem Reading.exists_fault {α : Type} {reading : Reading α}
    (h : ¬reading.IsPassable) :
    ∃ fault, reading.result = .error fault ∧ fault.isSkippable = false := by
  obtain ⟨fault, hfault⟩ := not_forall.mp h
  obtain ⟨hresult, hstop⟩ := Classical.not_imp.mp hfault
  rw [← Fault.isSkippable_iff] at hstop
  exact ⟨fault, hresult, Bool.eq_false_iff.mpr hstop⟩

/-- The reading of the fragment file at a path. -/
def readingOf [Host] (tree : FileTree) (root path : Path) : Reading Fragment :=
  ⟨nameBelow root path, readFragment tree path root⟩

theorem isPassable_of_read [Host] {tree : FileTree} {root path : Path}
    {fragment : Fragment} (h : readFragment tree path root = .ok fragment) :
    (readingOf tree root path).IsPassable := by
  intro fault hfault
  cases h.symm.trans hfault

theorem readings_eq [Host] {tree : FileTree} {root : Path}
    {readings : List (Reading Fragment)}
    (h : fragmentReadings tree root = .ok readings) :
    ∃ files, fragmentFiles tree root = .ok files ∧
      readings = files.map (readingOf tree root) := by
  obtain ⟨files, hfiles, hread⟩ := exists_of_bind_eq_ok h
  exact ⟨files, hfiles, (Except.ok.inj hread).symm⟩

/-- What was read, with the names it is reported under. -/
def taken {α : Type} (readings : List (Reading α)) : List (String × α) :=
  readings.filterMap fun reading =>
    match reading.result with
    | .ok value => some (reading.name, value)
    | .error _ => none

theorem taken_append {α : Type} (readings others : List (Reading α)) :
    taken (readings ++ others) = taken readings ++ taken others :=
  List.filterMap_append

/-- What was not read, with the reasons. -/
def passedOver {α : Type} (readings : List (Reading α)) :
    List (String × Fault) :=
  readings.filterMap fun reading =>
    match reading.result with
    | .ok _ => none
    | .error fault => some (reading.name, fault)

section

variable {α β : Type} (take : α → String → β → α × Log)
  (pass : α → String → Fault → α × Log)

def visit (state : α) (reading : Reading β) : α :=
  match reading.result with
  | .ok value => (take state reading.name value).1
  | .error fault => (pass state reading.name fault).1

theorem goThrough_passable {reading : Reading β} (h : reading.IsPassable)
    (state : α) (rest : List (Reading β)) :
    (goThrough take pass state (reading :: rest)).fault =
        (goThrough take pass (visit take pass state reading) rest).fault ∧
      (goThrough take pass state (reading :: rest)).state =
        (goThrough take pass (visit take pass state reading) rest).state := by
  rw [goThrough, visit]
  cases hresult : reading.result with
  | ok value => exact ⟨rfl, rfl⟩
  | error fault =>
      have hskip := Reading.isSkippable_of_isPassable h hresult
      simp only [hskip, if_true, and_self]

theorem goThrough_stop {reading : Reading β} {fault : Fault}
    (hresult : reading.result = .error fault)
    (hstop : fault.isSkippable = false) (state : α) (rest : List (Reading β)) :
    goThrough take pass state (reading :: rest) = ⟨state, [], some fault⟩ := by
  rw [goThrough, hresult]
  exact if_neg (Bool.eq_false_iff.mp hstop)

theorem goThrough_fault_eq_none_iff {readings : List (Reading β)} {state : α} :
    (goThrough take pass state readings).fault = none ↔
      ∀ reading ∈ readings, reading.IsPassable := by
  induction readings generalizing state with
  | nil => exact iff_of_true rfl (by simp)
  | cons reading rest ih =>
      rw [List.forall_mem_cons]
      by_cases h : reading.IsPassable
      · rw [(goThrough_passable take pass h state rest).1, ih]
        exact (and_iff_right h).symm
      · obtain ⟨fault, hresult, hstop⟩ := reading.exists_fault h
        rw [goThrough_stop take pass hresult hstop]
        simp [h]

theorem goThrough_state {readings : List (Reading β)}
    (h : ∀ reading ∈ readings, reading.IsPassable) (state : α) :
    (goThrough take pass state readings).state =
      readings.foldl (visit take pass) state := by
  induction readings generalizing state with
  | nil => rfl
  | cons reading rest ih =>
      obtain ⟨hreading, hrest⟩ := List.forall_mem_cons.mp h
      rw [(goThrough_passable take pass hreading state rest).2, ih hrest,
        List.foldl_cons]

theorem goThrough_fault {readings : List (Reading β)} {state : α}
    {fault : Fault}
    (h : (goThrough take pass state readings).fault = some fault) :
    fault.isSkippable = false ∧ ∃ reading ∈ readings,
      reading.result = .error fault := by
  induction readings generalizing state with
  | nil => cases h
  | cons reading rest ih =>
      by_cases hreading : reading.IsPassable
      · rw [(goThrough_passable take pass hreading state rest).1] at h
        obtain ⟨hstop, other, hother, hresult⟩ := ih h
        exact ⟨hstop, other, List.mem_cons_of_mem _ hother, hresult⟩
      · obtain ⟨cause, hresult, hstop⟩ := reading.exists_fault hreading
        rw [goThrough_stop take pass hresult hstop] at h
        obtain rfl : cause = fault := Option.some.inj h
        exact ⟨hstop, reading, List.mem_cons_self, hresult⟩

end

/-! ## What is read from a path -/

section

variable [Host] {tree other : FileTree} {path : Path}
  (h : other.node path = tree.node path)

include h

theorem readText_congr (purpose : Purpose) :
    readText other path purpose = readText tree path purpose := by
  unfold readText Host.isExhausted
  rw [FileTree.readText_congr h, FileTree.readBytes_congr h]

theorem readFragment_congr (root : Path) :
    readFragment other path root = readFragment tree path root := by
  unfold readFragment readStructured readScript
  simp only [readText_congr h]

theorem readSidebar_congr : readSidebar other path = readSidebar tree path := by
  rw [readSidebar, readSidebar, readText_congr h]

end

/-! ## Delivering and cataloguing -/

theorem foldl_visit_delivery (readings : List (Reading Fragment))
    (delivery : Delivery) :
    readings.foldl (visit Delivery.take Delivery.pass) delivery =
      { channel := { delivery.channel with
          pending := delivery.channel.pending ++ (taken readings).map
            fun read => .fragment read.2 }
        report := {
          delivered := delivery.report.delivered ++ (taken readings).map (·.1)
          failed :=
            ((passedOver readings).map fun entry =>
              (entry.1, entry.2.wording)).foldl
            (fun failed entry => failed.insert entry.1 entry.2)
              delivery.report.failed } } := by
  induction readings generalizing delivery with
  | nil => simp [taken, passedOver]
  | cons reading rest ih =>
      rw [List.foldl_cons, ih, visit]
      cases hresult : reading.result with
      | ok value =>
          simp [taken, passedOver, hresult, Delivery.take, Channel.buffer]
      | error fault =>
          simp [taken, passedOver, hresult, Delivery.pass]

theorem foldl_visit_catalog
    (pass : SidebarCatalog → String → Fault → SidebarCatalog × Log)
    (hpass : ∀ catalog name fault, (pass catalog name fault).1 = catalog)
    (readings : List (Reading SidebarIndex)) (catalog : SidebarCatalog) :
    readings.foldl (visit (fun catalog _ index => (catalog.add index, [])) pass)
      catalog =
      ((taken readings).map (·.2)).foldl SidebarCatalog.add catalog := by
  induction readings generalizing catalog with
  | nil => rfl
  | cons reading rest ih =>
      rw [List.foldl_cons, ih, visit]
      cases hresult : reading.result with
      | ok value => simp [taken, hresult]
      | error fault => simp [taken, hresult, hpass]

theorem goThroughAll_fault_eq_none_iff {α β : Type}
    {take : α → String → β → α × Log} {pass : α → String → Fault → α × Log}
    {start : α} {found : Except FileFault (List (Reading β))} :
    (goThroughAll take pass start found).fault = none ↔
      ∃ readings, found = .ok readings ∧ ∀ reading ∈ readings,
        reading.IsPassable := by
  cases found with
  | ok readings =>
      rw [goThroughAll, goThrough_fault_eq_none_iff]
      simp
  | error fault => simp [goThroughAll]

theorem goThroughAll_fault {α β : Type} {take : α → String → β → α × Log}
    {pass : α → String → Fault → α × Log} {start : α}
    {found : Except FileFault (List (Reading β))} {fault : Fault}
    (hfound : ∀ readings, found = .ok readings → ∀ reading ∈ readings,
      FailsByFile reading.result)
    (h : (goThroughAll take pass start found).fault = some fault) :
    (∃ cause, fault = .file cause) ∨ (∃ cause, fault = .value cause) ∨
      fault = .recursion := by
  cases found with
  | error cause => exact .inl ⟨cause, (Option.some.inj h).symm⟩
  | ok readings =>
      obtain ⟨hstop, reading, hreading, hresult⟩ := goThrough_fault take pass h
      obtain hfile | ⟨cause, rfl⟩ | hvalue :=
        hfound readings rfl reading hreading fault hresult
      · exact .inl hfile
      · cases hstop
      · exact .inr hvalue

theorem fault_deliverAll [Host] (tree : FileTree) (root : Path) :
    (deliverAll tree root).fault =
      (goThroughAll Delivery.take Delivery.pass .start
        (fragmentReadings tree root)).fault := by
  cases h : (goThroughAll Delivery.take Delivery.pass .start
    (fragmentReadings tree root)).fault <;>
    simp only [deliverAll, h]

theorem state_deliverAll [Host] (tree : FileTree) (root : Path) :
    (deliverAll tree root).state =
      (goThroughAll Delivery.take Delivery.pass .start
        (fragmentReadings tree root)).state := by
  cases h : (goThroughAll Delivery.take Delivery.pass .start
    (fragmentReadings tree root)).fault <;>
    simp only [deliverAll, h]

/-! ## Loading -/

/-- What a bundle comes to when all readings are passable. -/
def loaded (fragments : List (Reading Fragment))
    (sidebars : List (Reading SidebarIndex)) (expected : Option Int) :
    DocsIndex where
  channel := ⟨some (.registry registryName), []⟩
  registry := (Registry.empty.initialized.mergeAll
    ((taken fragments).map fun read => .fragment read.2)).1
  sidebars := ((taken sidebars).map (·.2)).foldl SidebarCatalog.add .empty
  report := {
    delivered := (taken fragments).map (·.1)
    failed :=
      Assoc.ofList ((passedOver fragments).map fun entry =>
        (entry.1, entry.2.wording)) }
  expected := expected

section

variable [Host] {tree : FileTree} {root : Path} {expected : Option Int}

theorem deliverAll_of_passable {fragments : List (Reading Fragment)}
    (hfound : fragmentReadings tree root = .ok fragments)
    (h : ∀ reading ∈ fragments, reading.IsPassable) :
    (deliverAll tree root).fault = none ∧
      (deliverAll tree root).state =
        ⟨⟨none, (taken fragments).map fun read => .fragment read.2⟩,
          (loaded fragments [] none).report⟩ := by
  rw [fault_deliverAll, state_deliverAll, hfound]
  refine ⟨(goThrough_fault_eq_none_iff _ _).mpr h, ?_⟩
  rw [goThroughAll, goThrough_state _ _ h, foldl_visit_delivery]
  rfl

theorem loadSidebars_of_passable {sidebars : List (Reading SidebarIndex)}
    (hfound : sidebarReadings tree root = .ok sidebars)
    (h : ∀ reading ∈ sidebars, reading.IsPassable) :
    (loadSidebars tree root).fault = none ∧
      (loadSidebars tree root).state = (loaded [] sidebars none).sidebars := by
  rw [loadSidebars, hfound]
  refine ⟨(goThrough_fault_eq_none_iff _ _).mpr h, ?_⟩
  rw [goThroughAll, goThrough_state _ _ h]
  exact foldl_visit_catalog _ (fun _ _ _ => rfl) _ _

theorem load_of_passable {fragments : List (Reading Fragment)}
    {sidebars : List (Reading SidebarIndex)}
    (hfragments : fragmentReadings tree root = .ok fragments)
    (hsidebars : sidebarReadings tree root = .ok sidebars)
    (hfragment : ∀ reading ∈ fragments, reading.IsPassable)
    (hsidebar : ∀ reading ∈ sidebars, reading.IsPassable) :
    (load tree root expected).1 = .ok (loaded fragments sidebars expected) := by
  obtain ⟨hdelivered, hdelivery⟩ := deliverAll_of_passable hfragments hfragment
  obtain ⟨hlisted, hcatalog⟩ := loadSidebars_of_passable hsidebars hsidebar
  simp only [load, hdelivered, hdelivery, hlisted, hcatalog]
  rfl

/-- Loading comes to the fault that ended one of its two passes, or all readings
are passable. -/
theorem load_cases (tree : FileTree) (root : Path) (expected : Option Int) :
    (∃ fault, ((deliverAll tree root).fault = some fault ∨
        (loadSidebars tree root).fault = some fault) ∧
      (load tree root expected).1 = .error fault) ∨
    ∃ fragments sidebars, fragmentReadings tree root = .ok fragments ∧
      sidebarReadings tree root = .ok sidebars ∧
      (∀ reading ∈ fragments, reading.IsPassable) ∧
        (∀ reading ∈ sidebars, reading.IsPassable) ∧
      (load tree root expected).1 =
        .ok (loaded fragments sidebars expected) := by
  cases hdelivered : (deliverAll tree root).fault with
  | some fault => exact .inl ⟨fault, .inl rfl, by simp only [load, hdelivered]⟩
  | none =>
      rw [fault_deliverAll] at hdelivered
      obtain ⟨fragments, hfragments, hfragment⟩ :=
        goThroughAll_fault_eq_none_iff.mp hdelivered
      obtain ⟨hdelivered, hdelivery⟩ :=
        deliverAll_of_passable hfragments hfragment
      cases hlisted : (loadSidebars tree root).fault with
      | some fault =>
          refine .inl ⟨fault, .inr rfl, ?_⟩
          simp only [load, hdelivered, hdelivery, hlisted]
          rfl
      | none =>
          obtain ⟨sidebars, hsidebars, hsidebar⟩ :=
            goThroughAll_fault_eq_none_iff.mp hlisted
          exact .inr ⟨fragments, sidebars, hfragments, hsidebars, hfragment,
            hsidebar, load_of_passable hfragments hsidebars hfragment hsidebar⟩

theorem eq_loaded_of_load {index : DocsIndex}
    (h : (load tree root expected).1 = .ok index) :
    ∃ fragments sidebars, fragmentReadings tree root = .ok fragments ∧
      sidebarReadings tree root = .ok sidebars ∧
        index = loaded fragments sidebars expected := by
  obtain ⟨fault, -, hfault⟩
    | ⟨fragments, sidebars, hfragments, hsidebars, -, -, hindex⟩ :=
    load_cases tree root expected
  · rw [hfault] at h
    cases h
  · rw [hindex] at h
    exact ⟨fragments, sidebars, hfragments, hsidebars, (Except.ok.inj h).symm⟩

/-- Loading gives an index exactly when the files can be looked for and each can
be read, or fails to be read as a file or in its format; then each is in the
index or passed over.  What ends it otherwise is a path that cannot be followed,
a value in a file that cannot be used, or a file that nests too deep. -/
theorem load_spec (tree : FileTree) (root : Path) (expected : Option Int) :
    (∀ index, (load tree root expected).1 = .ok index ↔
      ∃ fragments sidebars, fragmentReadings tree root = .ok fragments ∧
        sidebarReadings tree root = .ok sidebars ∧
        (∀ reading ∈ fragments, reading.IsPassable) ∧
        (∀ reading ∈ sidebars, reading.IsPassable) ∧
        index = loaded fragments sidebars expected) ∧
    ∀ fault, (load tree root expected).1 = .error fault →
      (∃ cause, fault = .file cause) ∨ (∃ cause, fault = .value cause) ∨
        fault = .recursion := by
  constructor
  · intro index
    constructor
    · intro h
      obtain ⟨fault, -, hfault⟩
        | ⟨fragments, sidebars, hfragments, hsidebars, hfragment, hsidebar,
          hindex⟩ := load_cases tree root expected
      · rw [hfault] at h
        cases h
      · rw [hindex] at h
        exact ⟨fragments, sidebars, hfragments, hsidebars, hfragment, hsidebar,
          (Except.ok.inj h).symm⟩
    · rintro ⟨fragments, sidebars, hfragments, hsidebars, hfragment,
        hsidebar, rfl⟩
      exact load_of_passable hfragments hsidebars hfragment hsidebar
  · intro fault h
    obtain ⟨cause, hcause, hfault⟩
      | ⟨fragments, sidebars, -, -, -, -, hindex⟩ :=
      load_cases tree root expected
    · obtain rfl : cause = fault := Except.error.inj (hfault.symm.trans h)
      obtain hdelivered | hlisted := hcause
      · rw [fault_deliverAll] at hdelivered
        exact goThroughAll_fault (fun _ => failsByFile_of_fragmentReadings)
          hdelivered
      · exact goThroughAll_fault
          (fun _ => failsByFile_of_sidebarReadings) hlisted
    · rw [hindex] at h
      cases h

end

/-! ## Reading a given text -/

/-- A bundle without sidebars is what its fragment files come to. -/
theorem load_of_fragments [Host] {tree : FileTree} {root : Path}
    {expected : Option Int} {place : List String} {files : List Path}
    (hplace : tree.place root = .ok place)
    (hdirectory : tree.nodeAt? place = some .directory)
    (hways : ∀ way ∈ sidebarWays tree place,
      tree.isFile (root.along way) = .ok false)
    (hfiles : fragmentFiles tree root = .ok files)
    (hpassable : ∀ path ∈ files, (readingOf tree root path).IsPassable) :
    (load tree root expected).1 =
      .ok (loaded (files.map (readingOf tree root)) [] expected) := by
  have hfound : filesAlong tree root (sidebarWays tree) = .ok [] := by
    rw [filesAlong_of_place hplace, if_pos hdirectory]
    exact filesAmong_of_no_files (List.forall_mem_map.mpr hways)
  apply load_of_passable
  · rw [fragmentReadings, hfiles]
    rfl
  · rw [sidebarReadings, sidebarFiles_of_found hfound List.Pairwise.nil]
    rfl
  · simpa using hpassable
  · simp

/-- A bundle whose only directory holds the fragments is what those come to. -/
theorem load_docs [Host] {tree : FileTree} {root : Path} {expected : Option Int}
    {files : List Path} (hplace : tree.place root = .ok ["docs"])
    (hdirectory : tree.nodeAt? ["docs"] = some .directory)
    (hways : sidebarWays tree ["docs"] = [["implementors", sidebarName]])
    (hmissing : tree.place (root.along ["implementors", sidebarName]) =
      .ok ["docs", "implementors", sidebarName])
    (hnone : ¬tree.HasFile ["docs", "implementors", sidebarName])
    (hfiles : fragmentFiles tree root = .ok files)
    (hpassable : ∀ path ∈ files, (readingOf tree root path).IsPassable) :
    (load tree root expected).1 =
      .ok (loaded (files.map (readingOf tree root)) [] expected) := by
  refine load_of_fragments hplace hdirectory ?_ hfiles hpassable
  rw [hways, List.forall_mem_singleton, FileTree.isFile_of_place hmissing,
    decide_eq_false hnone]

theorem readText_of_place [Host] {tree : FileTree} {path : Path}
    {place : List String} {content : List UInt8} {text : List Char}
    {purpose : Purpose} (hplace : tree.place path = .ok place)
    (hnode : tree.nodeAt? place = some (.file content))
    (hdecoded : (Text.decodeUtf8 content).toOption = some text)
    (hlines : Text.unifyLineEnds text = text)
    (hstack : Host.exhausts purpose content = false) :
    readText tree path purpose = .ok (String.ofList text) := by
  have hfound := FileTree.node_of_place hplace hnode
  have hbytes : tree.readBytes path = .ok content := by
    rw [FileTree.readBytes, hfound]
  have hsuffices : Host.isExhausted tree path purpose = false := by
    simp only [Host.isExhausted, hbytes, hstack]
  simp only [readText, FileTree.readText_of_node hfound hdecoded, hlines,
    hsuffices]
  rfl

def faultOf {α : Type} : Except Fault α → Option Fault
  | .ok _ => none
  | .error fault => some fault

theorem faultOf_eq_none {α : Type} {result : Except Fault α} :
    faultOf result = none ↔ ∃ value, result = .ok value := by
  cases result <;> simp [faultOf]

theorem faultOf_eq_some {α : Type} {result : Except Fault α} {fault : Fault} :
    faultOf result = some fault ↔ result = .error fault := by
  cases result <;> simp [faultOf]

/-! ## A number among the sidebar items -/

/-- A sidebar script whose one kind holds a number in the place of a list. -/
def numberScript : List Char := "initSidebarItems(\x7b\"fn\": 5\x7d);".toList

def numberPlace : List String := ["docs", "egui", "sidebar-items.js"]

def numberTree : FileTree :=
  FileTree.empty.put numberPlace
    (.file (numberScript.map fun c => UInt8.ofNat c.toNat))

theorem place_number {names : List String} (h : names <+: numberPlace) :
    numberTree.place ⟨.relative, names⟩ = .ok names := by
  have hall : ∀ names ∈ numberPlace.inits,
      numberTree.walk [] names = .ok names ∧
        '\x00' ∉ (Path.toText ⟨.relative, names⟩).toList ∧
        (Path.toText ⟨.relative, names⟩).utf8ByteSize ≤ FileTree.pathLimit := by
    decide
  obtain ⟨hwalk, hnull, hlength⟩ := hall names ((List.mem_inits _ _).mpr h)
  exact FileTree.place_eq_ok_iff.mpr ⟨hnull, hlength, hwalk⟩

theorem nodeAt?_number : numberTree.nodeAt? numberPlace =
    some (.file (numberScript.map fun c => UInt8.ofNat c.toNat)) := by
  decide

theorem readText_number :
    readText numberTree ⟨.relative, numberPlace⟩ .sidebar =
      .ok (String.ofList numberScript) := by
  exact readText_of_place (place_number (List.prefix_refl _)) nodeAt?_number
    (by decide) (by decide) rfl

theorem sidebarFiles_number :
    sidebarFiles numberTree ⟨.relative, ["docs"]⟩ =
      .ok [⟨.relative, numberPlace⟩] := by
  have hways : sidebarWays numberTree ["docs"] =
      [["egui", "sidebar-items.js"]] := by decide
  have hfiles : ∀ names ∈ sidebarWays numberTree ["docs"],
      numberTree.HasFile (["docs"] ++ names) ∧
        (Path.along ⟨.relative, ["docs"]⟩ names).toText.utf8ByteSize ≤
          FileTree.pathLimit := by
    rw [hways]
    decide
  have hfound := filesAlong_of_hasFile (show numberTree.WellFormed by decide)
    (place_number (by decide)) (by decide) hfiles
  rw [hways] at hfound
  exact sidebarFiles_of_found hfound (List.pairwise_singleton _ _)

theorem fragmentFiles_number :
    fragmentFiles numberTree ⟨.relative, ["docs"]⟩ = .ok [] := by
  have hplace : numberTree.place ⟨.relative, ["docs", "implementors"]⟩ =
      .ok ["docs", "implementors"] :=
    FileTree.place_eq_ok_iff.mpr ⟨by decide, by decide, rfl⟩
  have hmissing : numberTree.nodeAt? ["docs", "implementors"] ≠
      some .directory := by
    decide
  exact fragmentFiles_of_found
    ((filesAlong_of_place hplace).trans (if_neg hmissing)) rfl
    List.Pairwise.nil

theorem readSidebar_number :
    readSidebar numberTree ⟨.relative, numberPlace⟩ =
      .error (.value (.notIterable "int")) := by
  have hcrate : (Path.parent ⟨.relative, numberPlace⟩).name =
      "egui" := by decide
  have hread : Sidebar.read (String.ofList numberScript) "egui" =
      .error (.value (.notIterable "int")) := by
    rw [← faultOf_eq_some]
    decide +kernel
  unfold readSidebar
  rw [readText_number, hcrate]
  simp only [bind, Except.bind]
  rw [hread]

/-- One such script keeps a whole bundle from being loaded. -/
theorem load_number :
    (load numberTree ⟨.relative, ["docs"]⟩ none).1 =
      .error (.value (.notIterable "int")) := by
  have hfragments : fragmentReadings numberTree ⟨.relative, ["docs"]⟩ =
      .ok [] := by
    rw [fragmentReadings, fragmentFiles_number]
    rfl
  obtain ⟨hdelivered, hdelivery⟩ := deliverAll_of_passable hfragments (by simp)
  have hlisted : (loadSidebars numberTree ⟨.relative, ["docs"]⟩).fault =
      some (.value (.notIterable "int")) := by
    unfold loadSidebars sidebarReadings
    rw [sidebarFiles_number]
    simp only [bind, Except.bind, List.map_cons, List.map_nil,
      readSidebar_number, pure, Except.pure, goThroughAll, goThrough]
    rfl
  simp only [load, hdelivered, hdelivery, hlisted]
  rfl

end Bundle

end TraitIndex
