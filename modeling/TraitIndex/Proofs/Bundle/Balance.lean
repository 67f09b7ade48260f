import Mathlib.Algebra.BigOperators.Group.List.Basic
import Mathlib.Data.Set.List
import TraitIndex.Proofs.Bundle.Contents
import TraitIndex.Proofs.Bundle.Loading
import TraitIndex.Proofs.Registry.TextRecords
import TraitIndex.Proofs.Registry.Totals

/-!
# The books of a loaded bundle

Every fragment file of a bundle is either delivered or reported as failed, under
a name of its own.  What the registry has counted are the delivered files and
the records in them, one by one.
-/

namespace TraitIndex

namespace Bundle

/-! ## Names -/

section

variable {α : Type}

theorem taken_sublist (readings : List (Reading α)) :
    ((taken readings).map (·.1)).Sublist (readings.map (·.name)) := by
  induction readings with
  | nil => exact .slnil
  | cons reading rest ih =>
      cases hresult : reading.result with
      | ok value => simpa [taken, hresult] using ih
      | error fault => simpa [taken, hresult] using ih.cons reading.name

theorem passedOver_sublist (readings : List (Reading α)) :
    ((passedOver readings).map (·.1)).Sublist (readings.map (·.name)) := by
  induction readings with
  | nil => exact .slnil
  | cons reading rest ih =>
      cases hresult : reading.result with
      | ok value => simpa [passedOver, hresult] using ih.cons reading.name
      | error fault => simpa [passedOver, hresult] using ih

theorem values_taken (readings : List (Reading α)) :
    (taken readings).map (·.2) = readings.filterMap (·.result.toOption) := by
  unfold taken
  rw [List.map_filterMap]
  congr 1
  funext reading
  cases reading.result <;> rfl

theorem taken_append_passedOver_perm (readings : List (Reading α)) :
    ((taken readings).map (·.1) ++ (passedOver readings).map (·.1)).Perm
      (readings.map (·.name)) := by
  induction readings with
  | nil => exact .refl _
  | cons reading rest ih =>
      cases hresult : reading.result with
      | ok value => simpa [taken, passedOver, hresult] using ih
      | error fault =>
          have hpassed : passedOver (reading :: rest) =
              (reading.name, fault) :: passedOver rest := by
            simp [passedOver, hresult]
          have htaken : taken (reading :: rest) = taken rest := by
            simp [taken, hresult]
          rw [hpassed, htaken]
          exact List.perm_middle.trans (ih.cons reading.name)

theorem keys_failed_loaded {readings : List (Reading Fragment)}
    (hnodup : (readings.map (·.name)).Nodup)
    (sidebars : List (Reading SidebarIndex)) (expected : Option Int) :
    (loaded readings sidebars expected).report.failed.keys =
      (passedOver readings).map (·.1) := by
  have hkeys : Assoc.keys
      ((passedOver readings).map fun entry => (entry.1, entry.2.wording)) =
      (passedOver readings).map (·.1) :=
    List.map_map ..
  have hfailed := (passedOver_sublist readings).nodup hnodup
  rw [← hkeys] at hfailed ⊢
  exact congrArg Assoc.keys (Assoc.ofList_of_nodup hfailed)

end

section

variable {tree : FileTree} {root : Path} {files : List Path}

theorem isNames_of_mem_fragmentFiles (htree : tree.WellFormed)
    (hfiles : fragmentFiles tree root = .ok files) {path : Path}
    (hpath : path ∈ files) :
    ∃ names, path = ⟨root.root, root.components ++ names⟩ ∧ names ≠ [] ∧
      ∀ name ∈ names, Path.IsName name := by
  obtain ⟨-, place, below, names, -, -, rfl, rfl, hfile⟩ :=
    (mem_fragmentFiles_iff htree hfiles).mp hpath
  refine ⟨implementorsDirectory :: names, by simp [Path.child, Path.along],
    List.cons_ne_nil _ _, ?_⟩
  rw [List.forall_mem_cons]
  refine ⟨by decide, fun name hname => ?_⟩
  exact htree.isName _ hfile.mem_keys name (List.mem_append_right below hname)

theorem nameBelow_append (names : List String) :
    nameBelow root ⟨root.root, root.components ++ names⟩ =
      Path.toText ⟨.relative, names⟩ := by
  rw [nameBelow, List.drop_left]

theorem nodup_names (htree : tree.WellFormed)
    (hfiles : fragmentFiles tree root = .ok files) :
    (files.map (nameBelow root)).Nodup := by
  refine List.Nodup.map_on ?_
    (nodup_of_pairwise_lt (pairwise_fragmentFiles htree.keys_nodup hfiles))
  intro path hpath other hother heq
  obtain ⟨names, rfl, hne, hnames⟩ :=
    isNames_of_mem_fragmentFiles htree hfiles hpath
  obtain ⟨others, rfl, hneOthers, hothers⟩ :=
    isNames_of_mem_fragmentFiles htree hfiles hother
  rw [nameBelow_append, nameBelow_append] at heq
  rw [Path.toText_inj hne hneOthers hnames hothers heq]

theorem name_ne_empty (htree : tree.WellFormed)
    (hfiles : fragmentFiles tree root = .ok files) :
    ∀ name ∈ files.map (nameBelow root), name ≠ "" := by
  intro name hname
  obtain ⟨path, hpath, rfl⟩ := List.mem_map.mp hname
  obtain ⟨names, rfl, hne, hnames⟩ :=
    isNames_of_mem_fragmentFiles htree hfiles hpath
  rw [nameBelow_append]
  exact Path.toText_ne_empty hne hnames

/-! ## Contents -/

/-- What is read from a file of the given name: the fragment of that name with
records of texts. -/
def fragmentOf (content : String × Assoc String (List TextRecord)) : Fragment :=
  Fragment.ofTexts content.2 (.text content.1)

theorem exists_contents [Host] (hfiles : fragmentFiles tree root = .ok files) :
    ∃ contents : List (String × Assoc String (List TextRecord)),
      taken (files.map (readingOf tree root)) =
        contents.map fun content => (content.1, fragmentOf content) := by
  have heach : ∀ read ∈ taken (files.map (readingOf tree root)),
      ∃ content, (content.1, fragmentOf content) = read := by
    intro read hread
    obtain ⟨reading, hreading, hresult⟩ := List.mem_filterMap.mp hread
    obtain ⟨path, hpath, rfl⟩ := List.mem_map.mp hreading
    cases hfragment : readFragment tree path root with
    | error fault => simp [readingOf, hfragment] at hresult
    | ok fragment =>
        obtain ⟨name, crates, hname, rfl⟩ :=
          exists_texts_of_readFragment hfragment
        rw [fragmentName_of_isBelow (isBelow_of_mem_fragmentFiles hfiles hpath)]
          at hname
        obtain rfl := Except.ok.inj hname
        simp only [readingOf, hfragment, Option.some.injEq] at hresult
        exact ⟨(_, crates), hresult⟩
  obtain ⟨contents, hcontents⟩ :=
    (Set.range_list_map fun content => (content.1, fragmentOf content)).ge heach
  exact ⟨contents, hcontents.symm⟩

end

/-! ## Counters -/

section

variable (contents : List (String × Assoc String (List TextRecord)))

def merged : Registry :=
  (Registry.empty.initialized.mergeAll
    (contents.map fun content => .fragment (fragmentOf content))).1

theorem counter_merged (counter : RegistryStats → Int) (gain : Payload → Nat)
    (hgain : ∀ stats seen payload,
      counter (stats.absorb (payload.report seen)) =
        counter stats + gain payload)
    (hstart : counter .empty = 0) :
    counter (merged contents).stats =
      (contents.map fun content =>
        gain (.fragment (fragmentOf content))).sum := by
  have hempty : counter Registry.empty.initialized.stats = 0 := hstart
  rw [merged, Registry.mergeAll_counter counter gain hgain, hempty,
    Int.zero_add, List.map_map]
  rfl

theorem fragmentsMerged_merged :
    (merged contents).stats.fragmentsMerged = contents.length := by
  have hmerged :=
    counter_merged contents (·.fragmentsMerged) _ (fun stats seen payload => by
    rw [RegistryStats.fragmentsMerged_absorb, Int.natCast_add]) rfl
  have hone : (contents.map fun content =>
      if (Payload.fragment (fragmentOf content)).isAccepted = true then 1
      else 0).sum =
        contents.length := by
    simp [fragmentOf, Fragment.ofTexts, Payload.isAccepted, Payload.crates?]
  rw [hone] at hmerged
  exact Int.ofNat_inj.mp hmerged

theorem fragmentsRejected_merged :
    (merged contents).stats.fragmentsRejected = 0 := by
  have hrejected := counter_merged contents (·.fragmentsRejected) _
    (fun stats seen payload => by
    rw [RegistryStats.fragmentsRejected_absorb, Int.natCast_add]) rfl
  have hnone : (contents.map fun content =>
      if (Payload.fragment (fragmentOf content)).isAccepted = true then 0
      else 1).sum = 0 := by
    simp [fragmentOf, Fragment.ofTexts, Payload.isAccepted, Payload.crates?]
  rw [hnone] at hrejected
  exact Int.ofNat_inj.mp hrejected

theorem dropped_merged : (merged contents).stats.dropped =
    (contents.flatMap fun content => textElements content.2).countP
      (·.isIncomplete) := by
  rw [counter_merged contents (·.dropped) _
    (fun stats seen payload => stats.dropped_absorb seen payload) rfl,
      List.countP_flatMap]
  simp only [fragmentOf, Payload.droppings_ofTexts, Function.comp_def]

theorem records_merged :
    (merged contents).stats.records + (merged contents).stats.duplicates +
        (merged contents).stats.dropped =
      (contents.flatMap fun content => textElements content.2).length := by
  have hvalid := counter_merged contents
    (fun stats => stats.records + stats.duplicates) _
    (fun stats seen payload => stats.records_add_duplicates_absorb seen payload)
      rfl
  have hdropped := counter_merged contents (·.dropped) _
    (fun stats seen payload => stats.dropped_absorb seen payload) rfl
  have hsum : (contents.map fun content =>
    (Payload.fragment (fragmentOf content)).facts.length).sum +
      (contents.map fun content =>
        (Payload.fragment (fragmentOf content)).droppings).sum =
        (contents.map fun content => (textElements content.2).length).sum := by
    rw [← List.sum_map_add]
    simp only [fragmentOf, Payload.length_facts_add_droppings]
  rw [List.length_flatMap, ← hsum, Int.natCast_add, ← hvalid, ← hdropped]

theorem sources_merged (hne : ∀ name ∈ contents.map (·.1), name ≠ "")
    (source : String) :
    source ∈ (merged contents).stats.sources ↔ source ∈ contents.map (·.1) := by
  have hnone : source ∉ Registry.empty.initialized.stats.sources :=
    List.not_mem_nil
  rw [merged, Registry.mem_sources_mergeAll, or_iff_right hnone]
  simp only [List.mem_map, exists_exists_and_eq_and]
  have hsource (content) (hcontent : content ∈ contents) :
      (Payload.fragment (fragmentOf content)).sourceId = content.1 := by
    exact if_neg (hne _ (List.mem_map_of_mem hcontent))
  constructor
  · rintro ⟨content, hcontent, -, rfl⟩
    exact ⟨content, hcontent, (hsource content hcontent).symm⟩
  · rintro ⟨content, hcontent, rfl⟩
    exact ⟨content, hcontent, rfl, (hsource content hcontent).symm⟩

theorem distinctSources_merged (hnodup : (contents.map (·.1)).Nodup)
    (hne : ∀ name ∈ contents.map (·.1), name ≠ "") :
    (merged contents).stats.distinctSources = contents.length := by
  have hsources : (merged contents).stats.sources.Nodup :=
    Registry.nodup_sources_mergeAll Registry.empty.initialized List.nodup_nil _
  have hperm := (List.perm_ext_iff_of_nodup hsources hnodup).mpr
    (sources_merged contents hne)
  rw [RegistryStats.distinctSources, hperm.length_eq, List.length_map]

end

/-! ## The books -/

/-- What holds of an index of the files of the given names, from which the given
elements have been read. -/
structure Balances (index : DocsIndex) (names : List String)
    (elements : List Element) : Prop where
  delivered_sublist : index.report.delivered.Sublist names
  failed_sublist : index.report.failed.keys.Sublist names
  perm : (index.report.delivered ++ index.report.failed.keys).Perm names
  nodup : (index.report.delivered ++ index.report.failed.keys).Nodup
  fragmentsMerged : index.registry.stats.fragmentsMerged =
    index.report.delivered.length
  distinctSources : index.registry.stats.distinctSources =
    index.report.delivered.length
  mem_sources : ∀ source,
    source ∈ index.registry.stats.sources ↔ source ∈ index.report.delivered
  fragmentsRejected : index.registry.stats.fragmentsRejected = 0
  isLive : index.channel.isLive = true
  pending : index.channel.pending = []
  total : index.registry.stats.records + index.registry.stats.duplicates +
    index.registry.stats.dropped = elements.length
  dropped : index.registry.stats.dropped = elements.countP (·.isIncomplete)
  isReady : ∀ count : Int,
      (index.registry.readiness (some count)).isReady = true ↔
    count ≤ index.report.delivered.length

theorem balances_loaded [Host] {tree : FileTree} {root : Path}
    {files : List Path}
    {contents : List (String × Assoc String (List TextRecord))}
    (htree : tree.WellFormed) (hfiles : fragmentFiles tree root = .ok files)
    (hcontents : taken (files.map (readingOf tree root)) =
      contents.map fun content => (content.1, fragmentOf content))
    (sidebars : List (Reading SidebarIndex)) (expected : Option Int) :
    Balances (loaded (files.map (readingOf tree root)) sidebars expected)
      (files.map (nameBelow root))
        (contents.flatMap fun content => textElements content.2) := by
  have hnames : (files.map (readingOf tree root)).map (·.name) =
      files.map (nameBelow root) :=
    List.map_map ..
  have hnodup := nodup_names htree hfiles
  have hsublist := taken_sublist (files.map (readingOf tree root))
  have hfailedSublist := passedOver_sublist (files.map (readingOf tree root))
  have hperm := taken_append_passedOver_perm (files.map (readingOf tree root))
  have hfailed := keys_failed_loaded (hnames ▸ hnodup) sidebars expected
  have htaken : (taken (files.map (readingOf tree root))).map (·.1) =
      contents.map (·.1) := by
    rw [hcontents]
    exact List.map_map ..
  have hdelivered :
      (loaded (files.map (readingOf tree root)) sidebars
        expected).report.delivered =
      contents.map (·.1) := htaken
  have hregistry :
      (loaded (files.map (readingOf tree root)) sidebars expected).registry =
      merged contents := by
    simp only [loaded, merged, hcontents, List.map_map]
    rfl
  rw [htaken, hnames] at hsublist hperm
  rw [hnames] at hfailedSublist
  have hne : ∀ name ∈ contents.map (·.1), name ≠ "" :=
    fun name hname => name_ne_empty htree hfiles name (hsublist.subset hname)
  have hdistinct := distinctSources_merged contents (hsublist.nodup hnodup) hne
  constructor
  case delivered_sublist => rwa [hdelivered]
  case failed_sublist => rwa [hfailed]
  case perm => rwa [hdelivered, hfailed]
  case nodup => rwa [hdelivered, hfailed, hperm.nodup_iff]
  case fragmentsMerged =>
    rw [hregistry, hdelivered, fragmentsMerged_merged, List.length_map]
  case distinctSources => rw [hregistry, hdelivered, hdistinct, List.length_map]
  case mem_sources =>
    rw [hregistry, hdelivered]
    exact sources_merged contents hne
  case fragmentsRejected => rw [hregistry, fragmentsRejected_merged]
  case isLive => rfl
  case pending => rfl
  case total => rw [hregistry, records_merged]
  case dropped => rw [hregistry, dropped_merged]
  case isReady =>
    intro count
    rw [hregistry, hdelivered, List.length_map, Registry.readiness, hdistinct]
    exact decide_eq_true_iff

/-- The books of a loaded bundle balance.  Every fragment file is delivered or
has failed, under the name of its path and in the order of the scan; the
registry has merged what was delivered and nothing else; and of the records in
the fragments that could be read it has dropped those that name no trait or no
type. -/
theorem books_balance [Host] {tree : FileTree} {root : Path}
    {expected : Option Int} {index : DocsIndex} (htree : tree.WellFormed)
    (h : (load tree root expected).1 = .ok index) :
    ∃ files names lists, fragmentFiles tree root = .ok files ∧
      files.mapM (fun path => fragmentName path (some root)) = .ok names ∧
      (files.filterMap fun path => (readFragment tree path root).toOption).mapM
        Fragment.elements = .ok lists ∧
      Balances index names lists.flatten := by
  obtain ⟨readings, sidebars, hreadings, -, rfl⟩ := eq_loaded_of_load h
  obtain ⟨files, hfiles, rfl⟩ := readings_eq hreadings
  obtain ⟨contents, hcontents⟩ := exists_contents hfiles
  have hfragments :
      files.filterMap (fun path => (readFragment tree path root).toOption) =
      contents.map fragmentOf := by
    have hvalues := values_taken (files.map (readingOf tree root))
    rw [hcontents, List.map_map, List.filterMap_map] at hvalues
    exact hvalues.symm
  refine ⟨files, files.map (nameBelow root), contents.map fun content =>
    textElements content.2, hfiles, ?_, ?_, ?_⟩
  · exact mapM_eq_ok_map fun path hpath =>
      fragmentName_of_isBelow (isBelow_of_mem_fragmentFiles hfiles hpath)
  · rw [hfragments, List.mapM_map]
    exact mapM_eq_ok_map fun content _ => Fragment.elements_ofTexts content.2
      (.text content.1)
  · exact balances_loaded htree hfiles hcontents sidebars expected

/-! ## A broken script beside a list -/

/-- A script that gives one of its two crates no list. -/
def brokenScript : List Char :=
  ("var implementors = \x7b\x7d;\nimplementors[\"core\"] = [];\n" ++
    "implementors[\"egui\"] = [\x7b];\n").toList

/-- Two descriptors, the second of which names no trait. -/
def listedText : List Char :=
  ("\x7b\"core\": [\x7b\"trait\": \"Display\", \"type\": \"Foo\"\x7d, " ++
    "\x7b\"type\": \"Bar\"\x7d]\x7d").toList

def brokenPlace : List String := ["docs", "implementors", "a.js"]

def listedPlace : List String := ["docs", "implementors", "b.json"]

def listedTree : FileTree :=
  { nodes := [(listedPlace, .file (Text.encodeUtf8 listedText))] }

def brokenTree : FileTree :=
  { nodes := (brokenPlace, .file (Text.encodeUtf8 brokenScript)) ::
      listedTree.nodes }

theorem exists_readFragment_listed {tree : FileTree} {root path : Path}
    (hplace : tree.place path = .ok listedPlace)
    (hnode : tree.nodeAt? listedPlace =
      some (.file (Text.encodeUtf8 listedText)))
    (hbelow : IsBelow root path)
    (hname : nameBelow root path = "implementors/b.json")
    (hsuffix : path.suffix = ".json") :
    ∃ fragment, readFragment tree path root = .ok fragment := by
  have hdecoded : (Text.decodeUtf8 (Text.encodeUtf8 listedText)).toOption =
      some listedText := by
    decide
  have hstructured : isStructured path = true := by
    rw [isStructured, hsuffix]
    decide
  have hread : ∃ fragment,
      Structured.read (String.ofList listedText) "implementors/b.json"
      Structured.jsonFormat = .ok fragment :=
    faultOf_eq_none.mp (by decide +kernel)
  rw [readFragment_eq hbelow, readText_of_place hplace hnode hdecoded
    (by decide) rfl]
  change ∃ fragment, fragmentOfText path _ _ = .ok fragment
  rwa [fragmentOfText, if_pos hstructured, formatOf, if_pos hsuffix, hname]

theorem fragmentFiles_broken : fragmentFiles brokenTree ⟨.relative, ["docs"]⟩ =
    .ok [⟨.relative, brokenPlace⟩, ⟨.relative, listedPlace⟩] := by
  have hplace : brokenTree.place
      (Path.child ⟨.relative, ["docs"]⟩ implementorsDirectory) =
      .ok ["docs", "implementors"] :=
    FileTree.place_eq_ok_iff.mpr ⟨by decide, by decide, rfl⟩
  exact fragmentFiles_of_found
    (filesAlong_of_hasFile (by decide) hplace (by decide) (by decide))
    (by decide) (by decide)

theorem readFragment_broken :
    readFragment brokenTree ⟨.relative, brokenPlace⟩ ⟨.relative, ["docs"]⟩ =
      .error (.format
        (.badList "implementors/a.js" ⟨.propertyName, 1, 3, 2⟩)) := by
  have hplace : brokenTree.place ⟨.relative, brokenPlace⟩ = .ok brokenPlace :=
    FileTree.place_eq_ok_iff.mpr ⟨by decide, by decide, rfl⟩
  have hnode : brokenTree.nodeAt? brokenPlace =
      some (.file (Text.encodeUtf8 brokenScript)) := by
    decide
  have hbelow : IsBelow ⟨.relative, ["docs"]⟩ ⟨.relative, brokenPlace⟩ :=
    ⟨rfl, by decide⟩
  have hdecoded : (Text.decodeUtf8 (Text.encodeUtf8 brokenScript)).toOption =
      some brokenScript := by
    decide
  rw [readFragment_eq hbelow, readText_of_place hplace hnode hdecoded
    (by decide) rfl]
  exact faultOf_eq_some.mp (by decide +kernel)

theorem load_broken : ∃ index,
    (load brokenTree ⟨.relative, ["docs"]⟩ none).1 = .ok index ∧
      index.report.delivered = ["implementors/b.json"] := by
  have hread : ∃ fragment,
      readFragment brokenTree ⟨.relative, listedPlace⟩ ⟨.relative, ["docs"]⟩ =
        .ok fragment :=
    exists_readFragment_listed
      (FileTree.place_eq_ok_iff.mpr ⟨by decide, by decide, rfl⟩) (by decide)
      ⟨rfl, by decide⟩ (by decide) (by decide)
  obtain ⟨fragment, hfragment⟩ := hread
  refine ⟨_, load_docs
    (FileTree.place_eq_ok_iff.mpr ⟨by decide, by decide, rfl⟩) (by decide)
    (by decide) (FileTree.place_eq_ok_iff.mpr ⟨by decide, by decide, rfl⟩)
    (by decide) fragmentFiles_broken ?_, ?_⟩
  · refine List.forall_mem_cons.mpr ⟨fun fault hfault => ?_,
      List.forall_mem_singleton.mpr (isPassable_of_read hfragment)⟩
    obtain rfl := Except.error.inj (readFragment_broken.symm.trans hfault)
    exact .inl ⟨_, rfl⟩
  · have hname : nameBelow ⟨.relative, ["docs"]⟩ ⟨.relative, listedPlace⟩ =
        "implementors/b.json" := by
      decide
    simp [loaded, taken, readingOf, hfragment, readFragment_broken, hname]

/-- A script with one bad line has failed and the list beside it is delivered;
one of its two records is dropped. -/
theorem books_balance_broken : ∃ index files names lists,
    index.report.delivered = ["implementors/b.json"] ∧
      fragmentFiles brokenTree ⟨.relative, ["docs"]⟩ = .ok files ∧
      files.mapM (fun path => fragmentName path (some ⟨.relative, ["docs"]⟩)) =
        .ok names ∧
      (files.filterMap fun path =>
        (readFragment brokenTree path ⟨.relative, ["docs"]⟩).toOption).mapM
          Fragment.elements = .ok lists ∧
      brokenTree.WellFormed ∧ (load brokenTree ⟨.relative, ["docs"]⟩ none).1 =
        .ok index ∧
      Balances index names lists.flatten := by
  obtain ⟨index, hindex, hdelivered⟩ := load_broken
  have htree : brokenTree.WellFormed := by decide
  obtain ⟨files, names, lists, hfiles, hnames, hlists, hbalances⟩ :=
    books_balance htree hindex
  exact ⟨index, files, names, lists, hdelivered, hfiles, hnames, hlists, htree,
    hindex, hbalances⟩

end Bundle

end TraitIndex
