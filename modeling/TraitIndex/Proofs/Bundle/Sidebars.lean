import TraitIndex.Proofs.Bundle.ListingOrder
import TraitIndex.Proofs.Sidebar.Catalog

/-!
# The sidebars of a bundle

The sidebar of a crate is read from one file, which stands in the directory of
the crate.  What is answered for a crate depends on that file and on no other
one.
-/

namespace TraitIndex

namespace FileTree

variable {tree other : FileTree}

/-- Two trees with the same files, but for one place. -/
def SameFilesBut (tree other : FileTree) (target : List String) : Prop :=
  ∀ place, place ≠ target → ∀ content,
    tree.nodeAt? place = some (.file content) ↔
      other.nodeAt? place = some (.file content)

theorem sameFilesBut_put (tree : FileTree) (target : List String)
    (content changed : List UInt8) :
    SameFilesBut (tree.put target (.file content))
      (tree.put target (.file changed)) target := by
  intro place hne found
  have hkeys (given : List UInt8) : (tree.put target (.file given)).nodes.keys =
      (tree.put target (.file [])).nodes.keys := by
    by_cases htarget : target ∈ tree.nodes.keys
    · exact (Assoc.keys_insert_of_mem htarget _).trans
        (Assoc.keys_insert_of_mem htarget _).symm
    · exact (Assoc.keys_insert_of_not_mem htarget _).trans
        (Assoc.keys_insert_of_not_mem htarget _).symm
  have hbelow : (tree.put target (.file content)).hasBelow place =
      (tree.put target (.file changed)).hasBelow place := by
    rw [Bool.eq_iff_iff, hasBelow_iff, hasBelow_iff, hkeys content,
      hkeys changed]
  have hfind (given : List UInt8) :
      (tree.put target (.file given)).nodes.find? place =
        tree.nodes.find? place :=
    Assoc.find?_insert_of_ne hne _ _
  rw [nodeAt?, nodeAt?, hbelow, hfind content, hfind changed]

theorem SameFilesBut.symm {target : List String}
    (h : SameFilesBut tree other target) :
    SameFilesBut other tree target :=
  fun place hne content => (h place hne content).symm

/-- A path that never climbs leads to the same file when only another place is
different. -/
theorem SameFilesBut.node_file {target : List String} {path : Path}
    {content : List UInt8} (h : SameFilesBut tree other target)
    (hworking : other.working = tree.working) (hpath : ".." ∉ path.components)
    (hne : target ≠ tree.start path ++ path.components)
    (hnode : tree.node path = .ok (.file content)) :
    other.node path = .ok (.file content) := by
  obtain ⟨place, hplace, hfile⟩ := node_eq_file_iff.mp hnode
  obtain ⟨-, -, hwalk⟩ := place_eq_ok_iff.mp hplace
  obtain rfl := walk_of_no_climb hpath hwalk
  have hother := (h _ hne.symm content).mp hfile
  exact node_of_place
    (place_of_no_climb hworking.symm hpath hplace (by simp [hother])
      (by simp [hfile])) hother

end FileTree

namespace Bundle

variable {tree other : FileTree} {root : Path}

def sidebarPath (root : Path) (crate : String) : Path :=
  root.along [crate, sidebarName]

def sidebarOf [Host] (tree : FileTree) (root : Path) (crate : String) :
    Option SidebarIndex :=
  if Path.IsName crate then (readSidebar tree (sidebarPath root crate)).toOption
  else none

/-! ## Which files are sidebars -/

theorem no_climb_sidebar {crate : String} (hcrate : Path.IsName crate) :
    ".." ∉ [crate, sidebarName] := by
  simp [hcrate.ne_dots.symm, sidebarName]

theorem isFileBelow_sidebarPath {crate : String} {content : List UInt8}
    (hcrate : Path.IsName crate)
    (hnode : tree.node (sidebarPath root crate) = .ok (.file content)) :
    ∃ place, tree.IsFileBelow root (sidebarPath root crate) place := by
  obtain ⟨place, hplace, hfile⟩ := FileTree.node_eq_file_iff.mp hnode
  obtain ⟨below, hbelow, hdown⟩ := FileTree.place_of_along hplace
  obtain rfl := FileTree.walk_of_no_climb (no_climb_sidebar hcrate) hdown
  exact ⟨_, below, _, hbelow, FileTree.nodeAt?_of_node_below hfile, rfl, rfl,
    content, hfile⟩

theorem mem_sidebarFiles_iff_crate {files : List Path} (htree : tree.WellFormed)
    (hfiles : sidebarFiles tree root = .ok files) {path : Path} :
    path ∈ files ↔ ∃ crate, Path.IsName crate ∧ path = sidebarPath root crate ∧
      ∃ place, tree.IsFileBelow root path place := by
  rw [mem_sidebarFiles_iff htree hfiles]
  constructor
  · rintro ⟨crate, place, rfl, hfile⟩
    obtain ⟨below, names, -, -, hpath, rfl, hhas⟩ := id hfile
    obtain rfl : [crate, sidebarName] = names :=
      List.append_cancel_left (Path.mk.inj hpath).2
    exact ⟨crate, htree.isName _ hhas.mem_keys crate (by simp), rfl, _, hfile⟩
  · rintro ⟨crate, -, rfl, place, hfile⟩
    exact ⟨crate, place, rfl, hfile⟩

/-! ## What is read from a sidebar -/

theorem crate_of_read {text crate : String} {index : SidebarIndex}
    (h : Sidebar.read text crate = .ok index) : index.crate = crate := by
  unfold Sidebar.read at h
  split at h
  · cases h
  · split at h
    · cases h
    · cases h
    · obtain ⟨kinds, -, hindex⟩ := exists_of_bind_eq_ok h
      obtain rfl := Except.ok.inj hindex
      rfl
    · cases h

section

variable [Host]

theorem exists_file_of_readText {path : Path} {text : String}
    {purpose : Purpose} (h : readText tree path purpose = .ok text) :
    ∃ content, tree.node path = .ok (.file content) := by
  unfold readText FileTree.readText FileTree.readBytes at h
  split at h
  · cases h
  · next hread =>
      obtain ⟨content, hcontent, -⟩ := exists_of_bind_eq_ok hread
      split at hcontent
      · next hnode => exact ⟨_, hnode⟩
      · cases hcontent
      · cases hcontent

theorem exists_file_of_readSidebar {path : Path} {index : SidebarIndex}
    (h : readSidebar tree path = .ok index) : ∃ content,
      tree.node path = .ok (.file content) := by
  obtain ⟨text, htext, -⟩ := exists_of_bind_eq_ok h
  exact exists_file_of_readText htext

theorem crate_of_readSidebar {crate : String} {index : SidebarIndex}
    (h : readSidebar tree (sidebarPath root crate) = .ok index) :
    index.crate = crate := by
  obtain ⟨text, -, hread⟩ := exists_of_bind_eq_ok h
  rw [crate_of_read hread]
  simp [sidebarPath, Path.parent, Path.along, Path.name]

theorem sidebarOf_eq_some_iff {crate : String} {index : SidebarIndex} :
    sidebarOf tree root crate = some index ↔
      Path.IsName crate ∧ readSidebar tree (sidebarPath root crate) =
        .ok index := by
  unfold sidebarOf
  split
  · next hcrate => rw [toOption_eq_some_iff, and_iff_right hcrate]
  · next hcrate => simp [hcrate]

theorem sidebarOf_congr {crate : String}
    (h : ∀ content, tree.node (sidebarPath root crate) = .ok (.file content) ↔
      other.node (sidebarPath root crate) = .ok (.file content)) :
    sidebarOf other root crate = sidebarOf tree root crate := by
  apply Option.ext
  intro index
  rw [sidebarOf_eq_some_iff, sidebarOf_eq_some_iff]
  refine and_congr_right fun _ => ⟨fun hread => ?_, fun hread => ?_⟩
  · obtain ⟨content, hnode⟩ := exists_file_of_readSidebar hread
    rwa [readSidebar_congr (hnode.trans ((h content).mpr hnode).symm)] at hread
  · obtain ⟨content, hnode⟩ := exists_file_of_readSidebar hread
    rwa [readSidebar_congr (((h content).mp hnode).trans hnode.symm)]

/-! ## The catalog of a bundle -/

theorem exists_files_of_loadSidebars
    (h : (loadSidebars tree root).fault = none) :
    ∃ files, sidebarFiles tree root = .ok files ∧
      (loadSidebars tree root).state =
        SidebarCatalog.empty.takeAll (files.map (readSidebar tree)) := by
  obtain ⟨readings, hreadings, hpassable⟩ := goThroughAll_fault_eq_none_iff.mp h
  obtain ⟨files, hfiles, hmap⟩ := exists_of_bind_eq_ok hreadings
  obtain rfl := Except.ok.inj hmap
  refine ⟨files, hfiles, ?_⟩
  rw [loadSidebars, hreadings, goThroughAll, goThrough_state _ _ hpassable,
    List.foldl_map, SidebarCatalog.takeAll, List.foldl_map]
  congr 1
  funext catalog path
  simp only [visit]
  cases readSidebar tree path <;> rfl

theorem getLast?_indexesOf_sidebars {files : List Path}
    (htree : tree.WellFormed) (hfiles : sidebarFiles tree root = .ok files)
    (crate : String) :
    (SidebarCatalog.indexesOf (files.map (readSidebar tree)) crate).getLast? =
      sidebarOf tree root crate := by
  apply SidebarCatalog.getLast?_indexesOf_eq
  · intro index hindex hcrate
    obtain ⟨path, hpath, hread⟩ := List.mem_map.mp hindex
    obtain ⟨found, hfound, rfl, -⟩ :=
      (mem_sidebarFiles_iff_crate htree hfiles).mp hpath
    obtain rfl : found = crate := (crate_of_readSidebar hread).symm.trans hcrate
    exact sidebarOf_eq_some_iff.mpr ⟨hfound, hread⟩
  · intro index hindex
    obtain ⟨hcrate, hread⟩ := sidebarOf_eq_some_iff.mp hindex
    obtain ⟨content, hnode⟩ := exists_file_of_readSidebar hread
    have hpath := (mem_sidebarFiles_iff_crate htree hfiles).mpr
      ⟨crate, hcrate, rfl, isFileBelow_sidebarPath hcrate hnode⟩
    exact ⟨List.mem_map.mpr ⟨_, hpath, hread⟩, crate_of_readSidebar hread⟩

/-- The catalog has of each crate the sidebar that stands in the directory of
the crate. -/
theorem holds_loadSidebars (htree : tree.WellFormed)
    (h : (loadSidebars tree root).fault = none) :
    (loadSidebars tree root).state.Holds (sidebarOf tree root) := by
  obtain ⟨files, hfiles, hstate⟩ := exists_files_of_loadSidebars h
  rw [hstate, ← funext (getLast?_indexesOf_sidebars htree hfiles)]
  exact SidebarCatalog.holds_takeAll _

/-- A crate keeps its sidebar when only another file is different. -/
theorem sidebarOf_sameFilesBut {target : List String}
    (h : tree.SameFilesBut other target)
    (hworking : other.working = tree.working) (hroot : ".." ∉ root.components)
    {crate : String}
    (hne : target ≠ tree.start root ++ root.components ++
      [crate, sidebarName]) :
    sidebarOf other root crate = sidebarOf tree root crate := by
  by_cases hcrate : Path.IsName crate
  · have hpath : ".." ∉ (sidebarPath root crate).components := by
      rw [sidebarPath, Path.along, List.mem_append, not_or]
      exact ⟨hroot, no_climb_sidebar hcrate⟩
    have htarget : target ≠
        tree.start (sidebarPath root crate) ++
          (sidebarPath root crate).components := by
      rwa [List.append_assoc] at hne
    have hother : target ≠
        other.start (sidebarPath root crate) ++
          (sidebarPath root crate).components := by
      rwa [FileTree.start_congr hworking]
    exact sidebarOf_congr fun content =>
      ⟨h.node_file hworking hpath htarget,
        h.symm.node_file hworking.symm hpath hother⟩
  · rw [sidebarOf, sidebarOf, if_neg hcrate, if_neg hcrate]

/-- The catalog answers for a crate as before as long as the path of its sidebar
leads to the same file. -/
theorem lookup_loadSidebars_congr {crate : String} (htree : tree.WellFormed)
    (hother : other.WellFormed)
    (hloaded : (loadSidebars tree root).fault = none)
    (hreloaded : (loadSidebars other root).fault = none)
    (hsame : sidebarOf other root crate = sidebarOf tree root crate) :
    (crate ∈ (loadSidebars other root).state.crates ↔
        crate ∈ (loadSidebars tree root).state.crates) ∧
      ∀ kind, (loadSidebars other root).state.lookup crate kind =
        (loadSidebars tree root).state.lookup crate kind := by
  have hholds := holds_loadSidebars htree hloaded
  have hreholds := holds_loadSidebars hother hreloaded
  refine ⟨?_, fun kind => ?_⟩
  · rw [hreholds.mem_crates_iff, hholds.mem_crates_iff, hsame]
  · rw [hreholds.lookup_eq, hholds.lookup_eq, hsame]

/-- Sidebars of different crates never mix.  Of the indexes that come to a
catalog, those that can be had, the last one of each crate counts, and none of
another crate makes a difference.  So the catalog of a bundle has of each crate
what is read from the sidebar in its directory, and answers the same as long as
that one file stays the same. -/
theorem sidebars_apart :
    (∀ results : List (Except Fault SidebarIndex),
      ((SidebarCatalog.empty.takeAll results).Holds fun crate =>
        (SidebarCatalog.indexesOf results crate).getLast?) ∧
      (∀ crate,
        (∃ index, (SidebarCatalog.indexesOf results crate).getLast? =
          some index) ↔
        ∃ index, .ok index ∈ results ∧ index.crate = crate) ∧
      ∀ before result after crate, results = before ++ result :: after →
        (∀ index, result = .ok index → index.crate ≠ crate) → ∀ kind,
          (SidebarCatalog.empty.takeAll results).lookup crate kind =
            (SidebarCatalog.empty.takeAll (before ++ after)).lookup
              crate kind) ∧
    ∀ tree root, tree.WellFormed → (loadSidebars tree root).fault = none →
      (loadSidebars tree root).state.Holds (sidebarOf tree root) ∧
      ∀ other crate, other.WellFormed → other.working = tree.working →
        (loadSidebars other root).fault = none →
        ((∀ content, tree.node (sidebarPath root crate) = .ok (.file content) ↔
            other.node (sidebarPath root crate) = .ok (.file content)) ∨
          ∃ target, tree.SameFilesBut other target ∧ ".." ∉ root.components ∧
            target ≠ tree.start root ++ root.components ++
              [crate, "sidebar-items.js"]) →
        (crate ∈ (loadSidebars other root).state.crates ↔
          crate ∈ (loadSidebars tree root).state.crates) ∧
        ∀ kind, (loadSidebars other root).state.lookup crate kind =
          (loadSidebars tree root).state.lookup crate kind := by
  refine ⟨fun results => ⟨SidebarCatalog.holds_takeAll results,
    fun _ => SidebarCatalog.exists_getLast?_indexesOf_iff,
    fun _ _ _ _ => SidebarCatalog.lookup_takeAll_of_other⟩, ?_⟩
  intro tree root htree hloaded
  refine ⟨holds_loadSidebars htree hloaded, ?_⟩
  intro other crate hother hworking hreloaded hsame
  apply lookup_loadSidebars_congr htree hother hloaded hreloaded
  obtain hnode | ⟨target, hfiles, hroot, htarget⟩ := hsame
  · exact sidebarOf_congr hnode
  · exact sidebarOf_sameFilesBut hfiles hworking hroot htarget

end

/-! ## A crate in the directory of the fragments -/

def sidebarPlace (crate : String) : List String :=
  ["docs", crate, "sidebar-items.js"]

def itemScript : List Char :=
  "initSidebarItems(\x7b\"fn\":[\"var implementors\"]\x7d);".toList

def itemsScript : List Char :=
  "initSidebarItems(\x7b\"fn\":[\"var implementors\",\"b\"]\x7d);".toList

/-- A bundle with a crate that is called like the directory of the fragments. -/
def crateTree (script : List Char) : FileTree :=
  FileTree.empty.put (sidebarPlace "implementors")
    (.file (Text.encodeUtf8 script))

def cratesTree (script : List Char) : FileTree :=
  (FileTree.empty.put (sidebarPlace "egui")
    (.file (Text.encodeUtf8 itemScript))).put
    (sidebarPlace "implementors") (.file (Text.encodeUtf8 script))

/-- Two roots that lead to that bundle, one of them by way of the other
crate. -/
def cratesRoots : List Path :=
  [⟨.relative, ["docs"]⟩, ⟨.relative, ["docs", "egui", ".."]⟩]

def cratesWays : List (List String) :=
  [[], ["implementors"], ["egui", sidebarName], ["implementors", sidebarName]]

/-- What such a bundle holds. -/
structure CratesListing (script : List Char) : Prop where
  wellFormed : (cratesTree script).WellFormed
  walk : ∀ root ∈ cratesRoots, ∀ names ∈ cratesWays,
    ((cratesTree script).walk [] (root.components ++ names)).toOption =
      some ("docs" :: names)
  directories : ∀ names ∈ [[], ["implementors"]],
    (cratesTree script).nodeAt? ("docs" :: names) = some .directory
  sidebar_egui : (cratesTree script).nodeAt? (sidebarPlace "egui") =
    some (.file (Text.encodeUtf8 itemScript))
  sidebar_implementors : (cratesTree script).nodeAt?
    (sidebarPlace "implementors") = some (.file (Text.encodeUtf8 script))
  namesBelow : (cratesTree script).namesBelow ["docs", "implementors"] =
    [[sidebarName]]
  sidebarWays : sidebarWays (cratesTree script) ["docs"] =
    [["egui", sidebarName], ["implementors", sidebarName]]
  decodeUtf8 : (Text.decodeUtf8 (Text.encodeUtf8 script)).toOption = some script
  unifyLineEnds : Text.unifyLineEnds script = script

theorem cratesListing {script : List Char}
    (h : script ∈ [itemScript, itemsScript]) :
    CratesListing script := by
  obtain rfl | rfl : script = itemScript ∨ script = itemsScript := by
    simpa using h
  all_goals constructor <;> decide +kernel

theorem read_scripts :
    (Sidebar.read (String.ofList itemScript) "egui").toOption =
        some ⟨"egui", [("fn", [⟨"var implementors", ""⟩])]⟩ ∧
      (Sidebar.read (String.ofList itemScript) "implementors").toOption =
        some ⟨"implementors", [("fn", [⟨"var implementors", ""⟩])]⟩ ∧
      (Sidebar.read (String.ofList itemsScript) "implementors").toOption =
        some ⟨"implementors",
          [("fn", [⟨"var implementors", ""⟩, ⟨"b", ""⟩])]⟩ := by
  decide +kernel

section

variable {script : List Char} (hscript : script ∈ [itemScript, itemsScript])
  {root : Path} (hroot : root ∈ cratesRoots)

include hscript hroot

omit hscript in
theorem toText_cratesRoots {names : List String} (hnames : names ∈ cratesWays) :
    root.root = .relative ∧ '\x00' ∉ (root.along names).toText.toList ∧
      (root.along names).toText.utf8ByteSize ≤ FileTree.pathLimit := by
  have hall : ∀ root ∈ cratesRoots, ∀ names ∈ cratesWays,
      root.root = .relative ∧
      '\x00' ∉ (root.along names).toText.toList ∧
      (root.along names).toText.utf8ByteSize ≤ FileTree.pathLimit := by
    decide
  exact hall root hroot names hnames

theorem place_cratesTree {names : List String} (hnames : names ∈ cratesWays) :
    (cratesTree script).place (root.along names) = .ok ("docs" :: names) := by
  obtain ⟨hrelative, hnull, hlength⟩ := toText_cratesRoots hroot hnames
  have hstart : (cratesTree script).start (root.along names) = [] :=
    if_pos hrelative
  refine FileTree.place_eq_ok_iff.mpr ⟨hnull, hlength, ?_⟩
  rw [hstart]
  exact toOption_eq_some_iff.mp
    ((cratesListing hscript).walk root hroot names hnames)

theorem readSidebar_of_script {crate : String} {text : List Char}
    {index : SidebarIndex} (hcrate : [crate, sidebarName] ∈ cratesWays)
    (htext : text ∈ [itemScript, itemsScript])
    (hnode : (cratesTree script).nodeAt? (sidebarPlace crate) =
      some (.file (Text.encodeUtf8 text)))
    (hread : (Sidebar.read (String.ofList text) crate).toOption = some index) :
    readSidebar (cratesTree script) (sidebarPath root crate) = .ok index := by
  have hlisting := cratesListing htext
  have hfile := @readText_of_place _ _ _ _ _ _ .sidebar
    (place_cratesTree hscript hroot hcrate)
    hnode hlisting.decodeUtf8 hlisting.unifyLineEnds rfl
  have hname : (sidebarPath root crate).parent.name = crate := by
    simp [sidebarPath, Path.parent, Path.along, Path.name]
  rw [readSidebar, sidebarPath, hfile]
  change Sidebar.read _ (sidebarPath root crate).parent.name = _
  rw [hname]
  exact toOption_eq_some_iff.mp hread

theorem readSidebar_egui :
    readSidebar (cratesTree script) (sidebarPath root "egui") =
      .ok ⟨"egui", [("fn", [⟨"var implementors", ""⟩])]⟩ :=
  readSidebar_of_script hscript hroot (by simp [cratesWays]) (by simp)
    (cratesListing hscript).sidebar_egui read_scripts.1

theorem fragmentFiles_crates : fragmentFiles (cratesTree script) root =
    .ok [sidebarPath root "implementors"] := by
  have hlisting := cratesListing hscript
  have hplace := place_cratesTree hscript hroot
    (show ["implementors"] ∈ _ by simp [cratesWays])
  have hway : [implementorsDirectory, sidebarName] ∈ cratesWays := by decide
  have hfiles : ∀ names ∈
      (cratesTree script).namesBelow ["docs", "implementors"],
      (cratesTree script).HasFile (["docs", "implementors"] ++ names) ∧
        ((root.child implementorsDirectory).along names).toText.utf8ByteSize ≤
          FileTree.pathLimit := by
    rw [hlisting.namesBelow, List.forall_mem_singleton, Path.child_along]
    exact ⟨⟨_, hlisting.sidebar_implementors⟩,
      (toText_cratesRoots hroot hway).2.2⟩
  have hfound := filesAlong_of_hasFile hlisting.wellFormed hplace
    (hlisting.directories _ (by simp)) hfiles
  have hfragment : ∀ root ∈ cratesRoots,
      [sidebarPath root "implementors"].filter isFragmentFile =
        [sidebarPath root "implementors"] := by
    decide
  rw [hlisting.namesBelow, List.map_singleton] at hfound
  refine fragmentFiles_of_found hfound ?_ (List.pairwise_singleton _ _)
  rw [← Path.along_append]
  exact hfragment root hroot

theorem sidebarFiles_crates : sidebarFiles (cratesTree script) root =
    .ok [sidebarPath root "egui", sidebarPath root "implementors"] := by
  have hlisting := cratesListing hscript
  have hplace :=
    place_cratesTree hscript hroot (show [] ∈ _ by simp [cratesWays])
  rw [Path.along_nil] at hplace
  have hfiles : ∀ names ∈ sidebarWays (cratesTree script) ["docs"],
      (cratesTree script).HasFile (["docs"] ++ names) ∧
        (root.along names).toText.utf8ByteSize ≤ FileTree.pathLimit := by
    rw [hlisting.sidebarWays]
    intro names hnames
    have hway : names ∈ cratesWays := by
      simp only [List.mem_cons, List.not_mem_nil, or_false] at hnames
      simp [cratesWays, hnames]
    refine ⟨?_, (toText_cratesRoots hroot hway).2.2⟩
    simp only [List.mem_cons, List.not_mem_nil, or_false] at hnames
    obtain rfl | rfl := hnames
    · exact ⟨_, hlisting.sidebar_egui⟩
    · exact ⟨_, hlisting.sidebar_implementors⟩
  have hfound := filesAlong_of_hasFile hlisting.wellFormed hplace
    (hlisting.directories _ (by simp)) hfiles
  have hsorted : ∀ root ∈ cratesRoots,
      [sidebarPath root "egui", sidebarPath root "implementors"].Pairwise
        fun a b => a.le b = true := by
    decide
  rw [hlisting.sidebarWays] at hfound
  exact sidebarFiles_of_found hfound (hsorted root hroot)

theorem fault_loadSidebars_crates {index : SidebarIndex}
    (hread : readSidebar (cratesTree script) (sidebarPath root "implementors") =
      .ok index) :
    (loadSidebars (cratesTree script) root).fault = none := by
  have hreadings : sidebarReadings (cratesTree script) root =
      .ok (["egui", "implementors"].map fun crate =>
        ⟨(sidebarPath root crate).toText,
          readSidebar (cratesTree script) (sidebarPath root crate)⟩) := by
    rw [sidebarReadings, sidebarFiles_crates hscript hroot]
    rfl
  refine goThroughAll_fault_eq_none_iff.mpr ⟨_, hreadings, ?_⟩
  rw [List.forall_mem_map]
  intro crate hcrate fault hfault
  obtain rfl | rfl : crate = "egui" ∨ crate = "implementors" := by
    simpa using hcrate
  · cases (readSidebar_egui hscript hroot).symm.trans hfault
  · cases hread.symm.trans hfault

end

theorem readSidebar_item {root : Path} (hroot : root ∈ cratesRoots) :
    readSidebar (cratesTree itemScript) (sidebarPath root "implementors") =
      .ok ⟨"implementors", [("fn", [⟨"var implementors", ""⟩])]⟩ :=
  readSidebar_of_script (by simp) hroot (by simp [cratesWays]) (by simp)
    (cratesListing (by simp)).sidebar_implementors read_scripts.2.1

theorem readSidebar_items {root : Path} (hroot : root ∈ cratesRoots) :
    readSidebar (cratesTree itemsScript) (sidebarPath root "implementors") =
      .ok ⟨"implementors", [("fn", [⟨"var implementors", ""⟩, ⟨"b", ""⟩])]⟩ :=
  readSidebar_of_script (by simp) hroot (by simp [cratesWays]) (by simp)
    (cratesListing (by simp)).sidebar_implementors read_scripts.2.2

theorem loadSidebars_crate :
    (loadSidebars (crateTree itemScript)
        ⟨.relative, ["docs", "egui", ".."]⟩).fault = none ∧
      (loadSidebars (crateTree itemScript)
        ⟨.relative, ["docs", "egui", ".."]⟩).state = SidebarCatalog.empty := by
  have hmissing :
      (crateTree itemScript).place ⟨.relative, ["docs", "egui", ".."]⟩ =
      .error .missing :=
    FileTree.place_eq_walk (by decide) (by decide)
  have hfiles :=
    sidebarFiles_of_found (filesAlong_of_missing hmissing) List.Pairwise.nil
  have hreadings :
      sidebarReadings (crateTree itemScript) ⟨.relative, ["docs", "egui", ".."]⟩
        = .ok [] := by
    rw [sidebarReadings, hfiles]
    rfl
  exact loadSidebars_of_passable hreadings (by simp)

/-- The sidebar of that crate is a fragment file as well, and a change to it
changes the answer.  And where the root climbs back from the directory of a
crate, the sidebar of that crate is what opens the way to the others. -/
theorem lookup_changed_elsewhere :
    ((cratesTree itemScript).SameFilesBut (cratesTree itemsScript)
        (sidebarPlace "implementors") ∧
      fragmentFiles (cratesTree itemScript) ⟨.relative, ["docs"]⟩ =
        .ok [sidebarPath ⟨.relative, ["docs"]⟩ "implementors"] ∧
      fragmentFiles (cratesTree itemsScript) ⟨.relative, ["docs"]⟩ =
        .ok [sidebarPath ⟨.relative, ["docs"]⟩ "implementors"] ∧
      (loadSidebars (cratesTree itemScript) ⟨.relative, ["docs"]⟩).fault =
        none ∧
      (loadSidebars (cratesTree itemsScript) ⟨.relative, ["docs"]⟩).fault =
        none ∧
      (loadSidebars (cratesTree itemsScript) ⟨.relative, ["docs"]⟩).state.lookup
          "implementors" "fn" ≠
        (loadSidebars (cratesTree itemScript)
          ⟨.relative, ["docs"]⟩).state.lookup
          "implementors" "fn") ∧
    ((cratesTree itemScript).nodes.Perm
        ((sidebarPlace "egui", .file (Text.encodeUtf8 itemScript)) ::
          (crateTree itemScript).nodes) ∧
      (loadSidebars (crateTree itemScript)
        ⟨.relative, ["docs", "egui", ".."]⟩).fault = none ∧
      (loadSidebars (cratesTree itemScript)
        ⟨.relative, ["docs", "egui", ".."]⟩).fault = none ∧
      (loadSidebars (cratesTree itemScript)
        ⟨.relative, ["docs", "egui", ".."]⟩).state.lookup
          "implementors" "fn" ≠
        (loadSidebars (crateTree itemScript)
          ⟨.relative, ["docs", "egui", ".."]⟩).state.lookup
          "implementors" "fn") := by
  have hname : Path.IsName "implementors" := by decide
  have hlookup {script : List Char}
      (hscript : script ∈ [itemScript, itemsScript]) {root : Path}
      {index : SidebarIndex}
      (hloaded : (loadSidebars (cratesTree script) root).fault = none)
      (hread : readSidebar (cratesTree script) (sidebarPath root "implementors")
        = .ok index) :
      (loadSidebars (cratesTree script) root).state.lookup "implementors" "fn" =
        (index.items.find? "fn").getD [] := by
    rw [(holds_loadSidebars (cratesListing hscript).wellFormed
      hloaded).lookup_eq, sidebarOf_eq_some_iff.mpr ⟨hname, hread⟩]
    rfl
  constructor
  · have hroot : (⟨.relative, ["docs"]⟩ : Path) ∈ cratesRoots := by
      simp [cratesRoots]
    have hbefore :=
      fault_loadSidebars_crates (by simp) hroot (readSidebar_item hroot)
    have hafter :=
      fault_loadSidebars_crates (by simp) hroot (readSidebar_items hroot)
    refine ⟨FileTree.sameFilesBut_put _ _ _ _,
      fragmentFiles_crates (by simp) hroot,
      fragmentFiles_crates (by simp) hroot, hbefore, hafter, ?_⟩
    rw [hlookup (by simp) hbefore (readSidebar_item hroot),
      hlookup (by simp) hafter (readSidebar_items hroot)]
    decide
  · have hroot : (⟨.relative, ["docs", "egui", ".."]⟩ : Path) ∈
        cratesRoots := by
      simp [cratesRoots]
    have hafter :=
      fault_loadSidebars_crates (by simp) hroot (readSidebar_item hroot)
    obtain ⟨hbefore, hempty⟩ := loadSidebars_crate
    refine ⟨.refl _, hbefore, hafter, ?_⟩
    rw [hlookup (by simp) hafter (readSidebar_item hroot), hempty]
    decide

/-- The other crate is answered for as before. -/
theorem sidebars_apart_crates :
    (cratesTree itemScript).WellFormed ∧ (cratesTree itemsScript).WellFormed ∧
      (loadSidebars (cratesTree itemScript) ⟨.relative, ["docs"]⟩).fault =
        none ∧
      (loadSidebars (cratesTree itemsScript) ⟨.relative, ["docs"]⟩).fault =
        none ∧
      (loadSidebars (cratesTree itemsScript) ⟨.relative, ["docs"]⟩).state.lookup
        "egui" "fn" =
        (loadSidebars (cratesTree itemScript)
          ⟨.relative, ["docs"]⟩).state.lookup "egui" "fn" := by
  have hroot : (⟨.relative, ["docs"]⟩ : Path) ∈ cratesRoots := by
    simp [cratesRoots]
  have htree : (cratesTree itemScript).WellFormed :=
    (cratesListing (by simp)).wellFormed
  have hother : (cratesTree itemsScript).WellFormed :=
    (cratesListing (by simp)).wellFormed
  have hbefore :=
    fault_loadSidebars_crates (by simp) hroot (readSidebar_item hroot)
  have hafter :=
    fault_loadSidebars_crates (by simp) hroot (readSidebar_items hroot)
  have hworking (script : List Char) : (cratesTree script).working = [] := rfl
  have hplace : sidebarPlace "implementors" ≠
      (cratesTree itemScript).start ⟨.relative, ["docs"]⟩ ++ ["docs"] ++
        ["egui", "sidebar-items.js"] := by
    rw [FileTree.start, if_pos rfl, hworking]
    decide
  have hsame := (sidebars_apart.2 _ ⟨.relative, ["docs"]⟩ htree hbefore).2 _
    "egui" hother
    ((hworking _).trans (hworking _).symm) hafter 
      (.inr ⟨_, FileTree.sameFilesBut_put _ _ _ _, by decide, hplace⟩)
  exact ⟨htree, hother, hbefore, hafter, hsame.2 "fn"⟩

end Bundle

end TraitIndex
