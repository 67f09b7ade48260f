import TraitIndex.Proofs.Bundle.Balance
import TraitIndex.Proofs.Registry.Ownership
import TraitIndex.Proofs.Service.Serving

/-!
# The traits of a served bundle

The service lists the traits with their counts and their crates, and for each
trait its records, all of them or those of one crate.  What the list announces
is what the details give, as long as the name of the trait can stand in a path
and every text of an answer can be encoded.
-/

namespace TraitIndex

theorem Bundle.consistent_of_load [Host] {tree : FileTree} {root : Path}
    {expected : Option Int} {index : DocsIndex}
    (h : (load tree root expected).1 = .ok index) :
    Registry.Consistent index.registry := by
  obtain ⟨fragments, sidebars, -, -, rfl⟩ := eq_loaded_of_load h
  obtain ⟨hkeys, hlists, hvalid, hperm, hseen⟩ := Registry.Consistent.empty
  have hempty : Registry.Consistent Registry.empty.initialized :=
    ⟨hkeys, hlists, hvalid, hperm, hseen⟩
  exact hempty.mergeAll _

theorem Registry.Consistent.name_ne_empty {registry : Registry}
    (h : Consistent registry) {traitName : String}
    (htrait : traitName ∈ registry.traits) : traitName ≠ "" := by
  obtain ⟨record, hrecord⟩ :=
    List.exists_mem_of_ne_nil _ ((h.mem_traits_iff traitName).mp htrait)
  obtain ⟨identity, hvalid, rfl⟩ := h.valid_of_mem_records hrecord
  have hcomplete := (Option.filter_eq_some_iff.mp hvalid).2
  rw [Identity.isComplete, Bool.and_eq_true, bne_iff_ne] at hcomplete
  exact hcomplete.1

theorem Registry.Consistent.recordsFor_eq_nil {registry : Registry}
    (h : Consistent registry) {traitName crate : String}
    (hcrate : crate ∉ registry.cratesFor traitName) :
    registry.recordsFor traitName (some crate) = [] :=
  not_not.mp (mt (h.mem_cratesFor_iff traitName crate).mpr hcrate)

/-- What is told about a trait, taken from its records. -/
def Registry.summaryOf (field : String × List Record) : TraitSummary :=
  ⟨field.1, field.2.length,
    (field.2.map fun record => record.owningCrate.toText).eraseDups⟩

theorem Registry.Consistent.mem_summaries_iff {registry : Registry}
    (h : Consistent registry) {summary : TraitSummary} :
    summary ∈ registry.summaries ↔
      summary ∈ registry.byTrait.map summaryOf := by
  have hfields : registry.byTrait.map summaryOf =
      registry.byTrait.keys.map fun name =>
      ⟨name, (registry.records name).length, registry.cratesFor name⟩ := by
    rw [Assoc.keys, List.map_map]
    refine List.map_congr_left fun field hfield => ?_
    simp only [Function.comp_apply, cratesFor, h.records_of_mem hfield]
    rfl
  rw [hfields]
  exact (registry.traits_perm_keys.map _).mem_iff

theorem Registry.of_mem_summaries {registry : Registry} {name : String}
    {count : Nat} {crates : List String}
    (h : ⟨name, count, crates⟩ ∈ registry.summaries) :
    name ∈ registry.traits ∧ (registry.records name).length = count ∧
      registry.cratesFor name = crates := by
  obtain ⟨traitName, htrait, hsummary⟩ := List.mem_map.mp h
  obtain ⟨rfl, hcount, hcrates⟩ := TraitSummary.mk.inj hsummary
  exact ⟨htrait, hcount, hcrates⟩

namespace Service

/-! ## Bodies -/

/-- A body that lists records of a trait and says how many there are. -/
def implementorsBody (traitName : String) (records : List Record)
    (count : Nat) : Value :=
  Reply.object [
    ("trait_name", .text traitName),
    ("implementors", .list (records.map Reply.recordObject)),
    ("total_count", Reply.amount count)]

theorem body_statsReply_ne (index : DocsIndex) (request : Request)
    (traitName : String) (records : List Record) (count : Nat) :
    (statsReply index request).body ≠
      implementorsBody traitName records count := by
  unfold statsReply
  split
  · simp [Reply.body, Reply.statsObject, Reply.object, implementorsBody]
  · split
    · simp [Reply.body, Reply.detail, Reply.object, implementorsBody]
    · simp [Reply.body, Reply.statsObject, Reply.object, implementorsBody]

theorem allEncodable_iff {items : List Value} :
    Value.allEncodable items = true ↔ ∀ item ∈ items,
      item.isEncodable = true := by
  induction items with
  | nil => simp [Value.allEncodable]
  | cons item items ih =>
      rw [Value.allEncodable, Bool.and_eq_true, ih, List.forall_mem_cons]

theorem isEncodable_implementorsBody_iff {traitName : String}
    {records : List Record} {count : Nat} :
    (implementorsBody traitName records count).isEncodable = true ↔
      Text.isEncodable traitName = true ∧
        ∀ record ∈ records, (Reply.recordObject record).isEncodable = true := by
  have hnames : Text.isEncodable "trait_name" = true ∧
      Text.isEncodable "implementors" = true ∧
      Text.isEncodable "total_count" = true := by
    decide
  simp only [implementorsBody, Reply.object, Reply.amount, List.map_cons,
    List.map_nil, Value.isEncodable, Value.fieldsEncodable, hnames,
    Bool.and_true, Bool.true_and, Bool.and_eq_true, allEncodable_iff,
    List.forall_mem_map]

section

variable [Host]

def Answers (service : Service) (request : Request) (status : Nat)
    (body : Value) : Prop :=
  ∃ reply, service.reply request = .ok reply ∧ reply.status = status ∧
    reply.body = body

variable {service : Service} {index : DocsIndex}

theorem answers_of_encodable (h : service.answersFrom = .ok index)
    {request : Request} {resource : Resource}
    (hroute : Route.ofPath? request.path = some (.resource resource))
    (hshowable : (replyFrom index request resource).isShowable = true)
    (hencodable : (replyFrom index request resource).body.isEncodable = true) :
    service.Answers request (replyFrom index request resource).status
      (replyFrom index request resource).body := by
  refine ⟨_, ?_, rfl, rfl⟩
  rw [reply_of_route h hroute, replyOf]
  simp only [hshowable, hencodable, Bool.not_true, Bool.false_eq_true, if_false]

theorem answers_traits (h : service.answersFrom = .ok index) {request : Request}
    (hpath : request.path = "/api/implementors")
    (hencodable : ∀ summary ∈ index.registry.summaries,
      (Reply.summaryObject summary).isEncodable = true) :
    service.Answers request 200
      (.list (index.registry.summaries.map Reply.summaryObject)) := by
  have hroute : Route.ofPath? request.path = some (.resource .traits) := by
    rw [hpath]
    decide +kernel
  exact answers_of_encodable h hroute rfl
    (allEncodable_iff.mpr (List.forall_mem_map.mpr hencodable))

theorem answers_implementors (h : service.answersFrom = .ok index)
    {request : Request}
    {traitName : String} (hroute : Route.ofPath? request.path =
      some (.resource (.implementors traitName)))
    (hname : Text.isEncodable traitName = true)
    (hrecords : ∀ record ∈ index.registry.recordsFor traitName
      (request.parameter? "crate"),
        (Reply.recordObject record).isEncodable = true) :
    let records :=
      index.registry.recordsFor traitName (request.parameter? "crate")
    service.Answers request 200
      (implementorsBody traitName records records.length) :=
  answers_of_encodable h hroute rfl
    (isEncodable_implementorsBody_iff.mpr ⟨hname, hrecords⟩)

theorem not_answers_of_isReserved (h : service.answersFrom = .ok index)
    {request : Request} {traitName : String}
    (hreserved : Route.IsReserved traitName)
    (hpath : request.path = Route.traitPath traitName) (status : Nat)
    (records : List Record) (count : Nat) :
    ¬service.Answers request status
      (implementorsBody traitName records count) := by
  have hroute := Route.ofPath?_traitPath_of_isReserved hreserved
  rw [← hpath] at hroute
  rintro ⟨reply, hreply, -, hbody⟩
  rw [reply_of_route h hroute, replyOf] at hreply
  split_ifs at hreply
  obtain rfl := Except.ok.inj hreply
  exact body_statsReply_ne index request traitName records count hbody

/-- A record that cannot be encoded keeps the whole of its list back. -/
theorem not_answers_of_not_encodable (h : service.answersFrom = .ok index)
    {request : Request} {traitName : String} {record : Record}
    (hroute : Route.ofPath? request.path =
      some (.resource (.implementors traitName)))
    (hrecord : record ∈ index.registry.recordsFor traitName
      (request.parameter? "crate"))
    (hlone : (Reply.recordObject record).isEncodable = false) (status : Nat)
    (body : Value) :
    ¬service.Answers request status body := by
  have hbody : (replyFrom index request
      (.implementors traitName)).body.isEncodable ≠ true := by
    intro hencodable
    have hrecords :=
      (isEncodable_implementorsBody_iff.mp hencodable).2 record hrecord
    exact absurd (hlone.symm.trans hrecords) Bool.false_ne_true
  rintro ⟨reply, hreply, -, -⟩
  rw [reply_of_route h hroute, replyOf] at hreply
  simp only [hbody, Bool.not_eq_true', if_true] at hreply
  split at hreply <;> cases hreply

/-! ## Lists and details -/

/-- For a bundle built from any files, whatever has been asked before: a trait
in the list is answered for with as many records as the list says, in the order
in which they were merged; by crate with the records of that crate, of which
there are some for the crates in the list and for no others, and all of them
together.  A name that is not in the list is answered for with no records.  A
trait whose name holds a slash or is that of a fixed route cannot be asked for,
and an answer is only given if its texts can be encoded. -/
theorem traits_agree {tree : FileTree} {root : Path} {expected : Option Int}
    (hbuilt : (Bundle.load tree root expected).1 = .ok index)
    (hserved : service.answersFrom = .ok index) (earlier : List Request) :
    let asked := service.after earlier
    let summaries := index.registry.summaries
    (∀ request : Request, request.path = "/api/implementors" →
      (∀ summary ∈ summaries,
          (Reply.summaryObject summary).isEncodable = true) →
        asked.Answers request 200 (.list (summaries.map Reply.summaryObject))) ∧
    (∀ summary ∈ summaries, '/' ∉ summary.name.toList →
        ¬Route.IsReserved summary.name →
      Text.isEncodable summary.name = true →
      let records := index.registry.records summary.name
      let owned (crate : String) := records.filter (Registry.isOwnedBy · crate)
      (∀ request : Request, request.path = Route.traitPath summary.name →
        request.parameter? "crate" = none →
        (∀ record ∈ records, (Reply.recordObject record).isEncodable = true) →
          asked.Answers request 200
            (implementorsBody summary.name records summary.implementorCount)) ∧
      (∀ (request : Request) (crate : String),
          request.path = Route.traitPath summary.name →
        request.parameter? "crate" = some crate →
        (∀ record ∈ owned crate,
            (Reply.recordObject record).isEncodable = true) →
          asked.Answers request 200
            (implementorsBody summary.name (owned crate)
              (owned crate).length)) ∧
      (∀ crate, owned crate ≠ [] ↔ crate ∈ summary.crates) ∧
      (summary.crates.map fun crate => (owned crate).length).sum =
        summary.implementorCount) ∧
    (∀ name, name ∉ summaries.map (·.name) → name ≠ "" → '/' ∉ name.toList →
      ¬Route.IsReserved name → Text.isEncodable name = true →
      ∀ request : Request, request.path = Route.traitPath name →
        asked.Answers request 200 (implementorsBody name [] 0)) := by
  intro asked summaries
  have hconsistent := Bundle.consistent_of_load hbuilt
  have hasked : asked.answersFrom = .ok index :=
    answersFrom_after hserved earlier
  refine ⟨fun request => answers_traits hasked, ?_, ?_⟩
  · intro summary hsummary hslash hreserved hencodable records owned
    obtain ⟨name, hname, rfl⟩ := List.mem_map.mp hsummary
    have hopen : Route.IsOpen name :=
      ⟨hconsistent.name_ne_empty hname, hslash, hreserved⟩
    have hroute {request : Request}
        (hpath : request.path = Route.traitPath name) :
        Route.ofPath? request.path = some (.resource (.implementors name)) :=
      hpath ▸ (Route.ofPath?_traitPath_iff name).mpr hopen
    refine ⟨fun request hpath hcrate hrecords => ?_,
      fun request crate hpath hcrate hrecords => ?_,
      fun crate => (hconsistent.mem_cratesFor_iff name crate).symm,
      hconsistent.sum_cratesFor name⟩
    · have hanswers := answers_implementors hasked (hroute hpath) hencodable
      rw [hcrate] at hanswers
      exact hanswers hrecords
    · have hanswers := answers_implementors hasked (hroute hpath) hencodable
      rw [hcrate] at hanswers
      exact hanswers hrecords
  · intro name hname hne hslash hreserved hencodable request hpath
    have hnames : summaries.map (·.name) = index.registry.traits := by
      simp [summaries, Registry.summaries, Function.comp_def]
    rw [hnames, ← hconsistent.records_eq_nil_iff] at hname
    have hnone (crate : Option String) :
        index.registry.recordsFor name crate = [] := by
      cases crate <;> simp [Registry.recordsFor, hname]
    have hroute :=
      (Route.ofPath?_traitPath_iff name).mpr ⟨hne, hslash, hreserved⟩
    rw [← hpath] at hroute
    have hanswers := answers_implementors hasked hroute hencodable
    rw [hnone] at hanswers
    exact hanswers (fun _ h => absurd h List.not_mem_nil)

end

end Service

/-! ## A trait called like the fixed route -/

namespace Bundle

/-- A list of four records for three traits: one is called `stats`, and the type
of another holds a lone surrogate. -/
def sharedText : List Char :=
  ("\x7b\"core\": [\x7b\"trait\": \"stats\", \"type\": \"Foo\"\x7d, " ++
    "\x7b\"trait\": \"-Shown\", \"type\": \"Foo\"\x7d], " ++
    "\"egui\": [\x7b\"trait\": \"-Shown\", \"type\": \"Bar\"\x7d, " ++
    "\x7b\"trait\": \"Lone\", \"type\": \"\\ud800\"\x7d]\x7d").toList

def sharedPlace : List String := ["docs", "implementors", "a.json"]

def sharedTree : FileTree :=
  FileTree.empty.put sharedPlace (.file (Text.encodeUtf8 sharedText))

abbrev docsRoot : Path := ⟨.relative, ["docs"]⟩

def noVariables : Environment := ⟨none, none, none⟩

theorem place_shared {names : List String} (h : names ∈ sharedPlace.inits) :
    sharedTree.place ⟨.relative, names⟩ = .ok names := by
  have hall : ∀ names ∈ sharedPlace.inits,
      sharedTree.walk [] names = .ok names ∧
        '\x00' ∉ (Path.toText ⟨.relative, names⟩).toList ∧
        (Path.toText ⟨.relative, names⟩).utf8ByteSize ≤ FileTree.pathLimit := by
    decide +kernel
  obtain ⟨hwalk, hnull, hlength⟩ := hall names h
  exact FileTree.place_eq_ok_iff.mpr ⟨hnull, hlength, hwalk⟩

theorem fragmentFiles_shared :
    fragmentFiles sharedTree docsRoot = .ok [⟨.relative, sharedPlace⟩] := by
  have hways : sharedTree.namesBelow ["docs", "implementors"] =
      [["a.json"]] := by decide +kernel
  have hfiles : ∀ names ∈ sharedTree.namesBelow ["docs", "implementors"],
      sharedTree.HasFile (["docs", "implementors"] ++ names) ∧
        (Path.along ⟨.relative, ["docs", "implementors"]⟩
          names).toText.utf8ByteSize ≤
          FileTree.pathLimit := by
    rw [hways]
    decide +kernel
  have hfound := filesAlong_of_hasFile
    (show sharedTree.WellFormed by decide +kernel) (place_shared (by decide))
    (by decide +kernel) hfiles
  rw [hways] at hfound
  exact fragmentFiles_of_found hfound (by decide) (List.pairwise_singleton _ _)

/-- What is told about a trait, and whether all its records can be encoded. -/
def detailsOf (field : String × List Record) : TraitSummary × Bool :=
  (Registry.summaryOf field,
    field.2.all fun record => (Service.Reply.recordObject record).isEncodable)

def sharedDetails : List (TraitSummary × Bool) :=
  [(⟨"stats", 1, ["core"]⟩, true), (⟨"-Shown", 2, ["core", "egui"]⟩, true),
    (⟨"Lone", 1, ["egui"]⟩, false)]

theorem readFragment_shared : ∃ fragment,
    readFragment sharedTree ⟨.relative, sharedPlace⟩ docsRoot = .ok fragment ∧
      (Registry.empty.initialized.merge
        (.fragment fragment)).registry.byTrait.map detailsOf =
        sharedDetails := by
  have hnode : sharedTree.nodeAt? sharedPlace =
      some (.file (Text.encodeUtf8 sharedText)) := rfl
  have hbelow : IsBelow docsRoot ⟨.relative, sharedPlace⟩ := by decide
  have hdecoded : (Text.decodeUtf8 (Text.encodeUtf8 sharedText)).toOption =
      some sharedText := by
    decide +kernel
  have hlines : Text.unifyLineEnds sharedText = sharedText := by decide +kernel
  have htext : readText sharedTree ⟨.relative, sharedPlace⟩
      (purposeOf ⟨.relative, sharedPlace⟩) = .ok (String.ofList sharedText) :=
    readText_of_place (place_shared (by decide)) hnode hdecoded hlines rfl
  apply exists_of_map_eq_ok
  rw [readFragment_eq hbelow, htext, ← toOption_eq_some_iff]
  decide +kernel

theorem load_shared : ∃ index, (load sharedTree docsRoot none).1 = .ok index ∧
    index.registry.byTrait.map detailsOf = sharedDetails := by
  obtain ⟨fragment, hfragment, hdetails⟩ := readFragment_shared
  have hmissing :
      sharedTree.place (Path.along docsRoot ["implementors", sidebarName]) =
      .ok ["docs", "implementors", sidebarName] :=
    FileTree.place_eq_ok_iff.mpr ⟨by decide, by decide, rfl⟩
  have hpassable : ∀ path ∈ [(⟨.relative, sharedPlace⟩ : Path)],
      (readingOf sharedTree docsRoot path).IsPassable :=
    List.forall_mem_singleton.mpr (isPassable_of_read hfragment)
  have hload : (load sharedTree docsRoot none).1 =
      .ok (loaded ([⟨.relative, sharedPlace⟩].map
        (readingOf sharedTree docsRoot)) [] none) :=
    load_docs (place_shared (by decide)) (by decide +kernel)
      (by decide +kernel) hmissing
      (by decide +kernel) fragmentFiles_shared hpassable
  refine ⟨_, hload, ?_⟩
  have htaken : taken
      ([⟨.relative, sharedPlace⟩].map (readingOf sharedTree docsRoot)) =
      [(nameBelow docsRoot ⟨.relative, sharedPlace⟩, fragment)] := by
    simp [taken, readingOf, hfragment]
  rw [loaded, htaken]
  exact hdetails

theorem config_shared :
    (Config.load sharedTree noVariables "").1 =
      .ok ⟨docsRoot, none, .warning⟩ := by
  have hpath : Config.settingsPath "" = ⟨.relative, ["docindex.yaml"]⟩ := by
    decide +kernel
  have hplace : sharedTree.place ⟨.relative, ["docindex.yaml"]⟩ =
      .ok ["docindex.yaml"] :=
    FileTree.place_eq_ok_iff.mpr ⟨by decide, by decide, rfl⟩
  have hmissing : sharedTree.nodeAt? ["docindex.yaml"] = none := by
    decide +kernel
  have hnode : sharedTree.node ⟨.relative, ["docindex.yaml"]⟩ =
      .error .missing := by
    simp [FileTree.node, hplace, hmissing, bind, Except.bind, throw, throwThe,
      MonadExceptOf.throw]
  have hstack : Host.isExhausted sharedTree (Config.settingsPath "")
      (.settings noVariables) = false := by
    simp [Host.isExhausted, FileTree.readBytes, hpath, hnode]
  have hsettings : Config.settings sharedTree "" = .ok ([], []) := by
    unfold Config.settings
    simp [hpath, FileTree.contains, FileTree.node?, hnode, bind, Except.bind,
      Except.map, mapError_ok, pure, Except.pure]
  rw [Config.load, hstack, hsettings, ← toOption_eq_some_iff]
  decide +kernel

end Bundle

/-- What is told about a trait is told of its records. -/
theorem Registry.Consistent.of_mem_details {registry : Registry}
    (h : Consistent registry) {summary : TraitSummary} {encodable : Bool}
    (hmem : (summary, encodable) ∈ registry.byTrait.map Bundle.detailsOf) :
    ((registry.records summary.name).all fun record =>
      (Service.Reply.recordObject record).isEncodable) = encodable := by
  obtain ⟨field, hfield, hdetails⟩ := List.mem_map.mp hmem
  obtain ⟨rfl, rfl⟩ := Prod.mk.inj hdetails
  rw [summaryOf, h.records_of_mem hfield]

namespace Service

open TraitIndex.Bundle (sharedTree docsRoot noVariables)

theorem answersFrom_start [Host] {index : DocsIndex} {files : FileTree}
    {environment : Environment} {config : Config}
    (hconfig : (Config.load files environment "").1 = .ok config)
    (hbuilt : (Bundle.load files config.docsRoot config.expected).1 =
      .ok index) :
    (start files environment).answersFrom = .ok index := by
  simp only [answersFrom, load, start, hconfig]
  exact hbuilt

/-- The records of one trait can be encoded, and one record of another
cannot. -/
theorem start_shared :
    ∃ index, (Bundle.load sharedTree docsRoot none).1 = .ok index ∧
    (start sharedTree noVariables).answersFrom = .ok index ∧
    (∀ summary, summary ∈ index.registry.summaries ↔
      summary ∈ Bundle.sharedDetails.map (·.1)) ∧
    (∀ record ∈ index.registry.records "-Shown",
      (Reply.recordObject record).isEncodable = true) ∧
    ∃ record ∈ index.registry.records "Lone",
      (Reply.recordObject record).isEncodable = false := by
  obtain ⟨index, hbuilt, hdetails⟩ := Bundle.load_shared
  have hconsistent := Bundle.consistent_of_load hbuilt
  have hshown := @Registry.Consistent.of_mem_details _ hconsistent
    ⟨"-Shown", 2, ["core", "egui"]⟩ true (hdetails ▸ by decide)
  have hlone := @Registry.Consistent.of_mem_details _ hconsistent
    ⟨"Lone", 1, ["egui"]⟩ false (hdetails ▸ by decide)
  refine ⟨index, hbuilt, answersFrom_start Bundle.config_shared hbuilt,
    fun summary => ?_, List.all_eq_true.mp hshown, ?_⟩
  · rw [hconsistent.mem_summaries_iff, ← hdetails, List.map_map]
    rfl
  · simpa using hlone

theorem traits_agree_shown : ∃ index,
    (Bundle.load sharedTree docsRoot none).1 = .ok index ∧
      (start sharedTree noVariables).answersFrom = .ok index ∧
      ⟨"-Shown", 2, ["core", "egui"]⟩ ∈ index.registry.summaries ∧
      let asked :=
        (start sharedTree noVariables).after [⟨"/api/implementors/stats", []⟩]
      let records := index.registry.records "-Shown"
      asked.Answers ⟨Route.traitPath "-Shown", []⟩ 200
          (implementorsBody "-Shown" records 2) ∧
        records.filter (Registry.isOwnedBy · "egui") ≠ [] ∧
        asked.Answers ⟨Route.traitPath "Hidden", []⟩ 200
          (implementorsBody "Hidden" [] 0) := by
  obtain ⟨index, hbuilt, hserved, hsummaries, hrecords, -⟩ := start_shared
  have hshown : ⟨"-Shown", 2, ["core", "egui"]⟩ ∈ index.registry.summaries :=
    (hsummaries _).mpr (by decide)
  obtain ⟨-, hdetails, hunknown⟩ :=
    traits_agree hbuilt hserved [⟨"/api/implementors/stats", []⟩]
  obtain ⟨hall, -, hcrates, -⟩ :=
    hdetails _ hshown (by decide) (by decide) (by decide)
  have hhidden : "Hidden" ∉ index.registry.summaries.map (·.name) := by
    simp [hsummaries, Bundle.sharedDetails]
  exact ⟨index, hbuilt, hserved, hshown, hall _ rfl rfl hrecords,
    (hcrates "egui").mpr (by decide), hunknown "Hidden" hhidden (by decide)
    (by decide) (by decide) (by decide) _ rfl⟩

/-- A trait called `stats` is in the list, and what is asked for it is not
answered with its one record.  Nor is a trait answered for that has a type with
a lone surrogate. -/
theorem stats_hides_trait : ∃ index,
    (Bundle.load sharedTree docsRoot none).1 = .ok index ∧
      (start sharedTree noVariables).answersFrom = .ok index ∧
      (⟨"stats", 1, ["core"]⟩ ∈ index.registry.summaries ∧
          '/' ∉ "stats".toList ∧
        ¬(start sharedTree noVariables).Answers
          ⟨"/api/implementors/stats", []⟩ 200
          (implementorsBody "stats" (index.registry.records "stats") 1)) ∧
      (⟨"Lone", 1, ["egui"]⟩ ∈ index.registry.summaries ∧ Route.IsOpen "Lone" ∧
        ¬(start sharedTree noVariables).Answers ⟨Route.traitPath "Lone", []⟩ 200
          (implementorsBody "Lone" (index.registry.records "Lone") 1)) := by
  obtain ⟨index, hbuilt, hserved, hsummaries, -, record, hrecord, hlone⟩ :=
    start_shared
  have hroute := (Route.ofPath?_traitPath_iff "Lone").mpr (by decide)
  exact ⟨index, hbuilt, hserved, ⟨(hsummaries _).mpr (by decide), by decide,
    not_answers_of_isReserved hserved (by decide) (by decide +kernel) _ _ _⟩,
    (hsummaries _).mpr (by decide), by decide,
    not_answers_of_not_encodable hserved hroute hrecord hlone _ _⟩

end Service

end TraitIndex
