import Mathlib.Data.List.Basic
import TraitIndex.Proofs.Bundle.Loading

/-!
# Listings in another order

A tree may list its files in any order.  What is read from a path depends on
what stands there, and the scans put the paths in an order of their own, so
loading comes to the same.
-/

namespace TraitIndex

namespace FileTree

/-- Two listings of the same files. -/
structure SameListing (tree other : FileTree) : Prop where
  working : other.working = tree.working
  perm : tree.nodes.Perm other.nodes

namespace SameListing

variable {tree other : FileTree} (h : SameListing tree other)

include h

theorem keys_perm : tree.nodes.keys.Perm other.nodes.keys :=
  h.perm.map Prod.fst

variable (htree : tree.WellFormed)

include htree

theorem nodeAt?_eq (place : List String) :
    other.nodeAt? place = tree.nodeAt? place :=
  nodeAt?_of_perm htree.keys_nodup h.perm place

theorem node_eq (path : Path) : other.node path = tree.node path :=
  node_congr h.working (h.nodeAt?_eq htree) path

theorem wellFormed : other.WellFormed where
  keys_nodup := h.keys_perm.nodup_iff.mp htree.keys_nodup
  ne_nil place hplace := htree.ne_nil place (h.keys_perm.mem_iff.mpr hplace)
  isName place hplace := htree.isName place (h.keys_perm.mem_iff.mpr hplace)
  hasBelow_file place content hfile := by
    have hbelow : other.hasBelow place = tree.hasBelow place :=
      h.perm.symm.any_eq
    rw [hbelow]
    exact htree.hasBelow_file place content (h.perm.mem_iff.mpr hfile)

theorem isFileBelow_iff {directory path : Path} {place : List String} :
    other.IsFileBelow directory path place ↔
      tree.IsFileBelow directory path place :=
  isFileBelow_congr h.working (h.nodeAt?_eq htree) directory path place

omit htree in
theorem mem_namesBelow_iff {place names : List String} :
    names ∈ other.namesBelow place ↔ names ∈ tree.namesBelow place := by
  rw [mem_namesBelow, mem_namesBelow, h.keys_perm.mem_iff]

theorem mem_directoriesIn_iff {place : List String} {name : String} :
    name ∈ other.directoriesIn place ↔ name ∈ tree.directoriesIn place := by
  rw [mem_directoriesIn, mem_directoriesIn, h.nodeAt?_eq htree]

end SameListing

end FileTree

namespace Bundle

open FileTree

variable {tree other : FileTree} {root : Path} {files : List Path}

/-! ## What is found -/

theorem isFragmentFile_iff {path : Path} :
    isFragmentFile path = true ↔
      path.suffix ∈ [".js", ".json", ".yaml", ".yml"] := by
  simp [isFragmentFile, isStructured, structuredSuffixes, scriptSuffix]

section

variable (htree : tree.WellFormed)

include htree

theorem fragmentFiles_spec (hfiles : fragmentFiles tree root = .ok files) :
    files.Nodup ∧ (files.Pairwise fun a b => a.parts < b.parts) ∧
      ∀ path, path ∈ files ↔ path.suffix ∈ [".js", ".json", ".yaml", ".yml"] ∧
        ∃ place, tree.IsFileBelow (root.child "implementors") path place := by
  have hsorted := pairwise_fragmentFiles htree.keys_nodup hfiles
  refine ⟨nodup_of_pairwise_lt hsorted, hsorted, fun path => ?_⟩
  rw [mem_fragmentFiles_iff htree hfiles, isFragmentFile_iff]
  rfl

theorem sidebarFiles_spec (hfiles : sidebarFiles tree root = .ok files) :
    files.Nodup ∧ (files.Pairwise fun a b => a.parts < b.parts) ∧
      ∀ path, path ∈ files ↔ ∃ crate place,
        path = (root.child crate).child "sidebar-items.js" ∧
          tree.IsFileBelow root path place := by
  have hsorted := pairwise_sidebarFiles hfiles
  refine ⟨nodup_of_pairwise_lt hsorted, hsorted, fun path => ?_⟩
  rw [mem_sidebarFiles_iff htree hfiles]
  have hpath (crate : String) :
      root.along [crate, sidebarName] =
        (root.child crate).child "sidebar-items.js" :=
    (Path.child_along root crate [sidebarName]).symm
  simp only [hpath]

end

section

variable (h : SameListing tree other) (htree : tree.WellFormed)

include h htree

theorem exists_filesAlong_of_sameListing {directory : Path}
    {ways otherWays : List String → List (List String)}
    (hways : ∀ place, ∀ names ∈ otherWays place, names ∈ ways place)
    (hfiles : filesAlong tree directory ways = .ok files) :
    ∃ others, filesAlong other directory otherWays = .ok others := by
  have hplaced := place_congr h.working (h.nodeAt?_eq htree) directory
  have hdirectory := isDirectory_congr (h.node_eq htree directory)
  cases hplace : tree.place directory with
  | error obstacle =>
      unfold filesAlong at hfiles ⊢
      rw [hplaced, hdirectory]
      rw [hplace] at hfiles ⊢
      exact ⟨files, hfiles⟩
  | ok place =>
      rw [filesAlong_of_place hplace] at hfiles
      rw [filesAlong_of_place (hplaced.trans hplace), h.nodeAt?_eq htree]
      split at hfiles
      · next hthere =>
          rw [if_pos hthere, exists_filesAmong_iff]
          have hall := exists_filesAmong_iff.mp ⟨files, hfiles⟩
          intro path hpath
          obtain ⟨names, hnames, rfl⟩ := List.mem_map.mp hpath
          rw [isFile_congr (h.node_eq htree _)]
          exact hall _ (List.mem_map_of_mem (hways place names hnames))
      · next hmissing => exact ⟨[], if_neg hmissing⟩

theorem fragmentFiles_of_sameListing
    (hfiles : fragmentFiles tree root = .ok files) :
    fragmentFiles other root = .ok files := by
  obtain ⟨found, hfound, -⟩ := exists_of_fragmentFiles hfiles
  obtain ⟨others, hothers⟩ := exists_filesAlong_of_sameListing h htree
    (fun place names hnames => h.mem_namesBelow_iff.mp hnames) hfound
  have hother : fragmentFiles other root =
      .ok (inOrder (others.filter isFragmentFile)) := by
    rw [fragmentFiles, hothers]
    rfl
  rw [hother]
  refine congrArg Except.ok (eq_of_pairwise_lt
    (pairwise_fragmentFiles (h.wellFormed htree).keys_nodup hother)
    (pairwise_fragmentFiles htree.keys_nodup hfiles) fun path => ?_)
  simp only [mem_fragmentFiles_iff (h.wellFormed htree) hother,
    h.isFileBelow_iff htree, mem_fragmentFiles_iff htree hfiles]

theorem sidebarFiles_of_sameListing
    (hfiles : sidebarFiles tree root = .ok files) :
    sidebarFiles other root = .ok files := by
  obtain ⟨found, hfound, -⟩ := exists_of_sidebarFiles hfiles
  have hways (place : List String) : ∀ names ∈ sidebarWays other place,
      names ∈ sidebarWays tree place := by
    intro names hnames
    obtain ⟨crate, hcrate, rfl⟩ := List.mem_map.mp hnames
    exact List.mem_map_of_mem ((h.mem_directoriesIn_iff htree).mp hcrate)
  obtain ⟨others, hothers⟩ :=
    exists_filesAlong_of_sameListing h htree hways hfound
  have hother : sidebarFiles other root = .ok (inOrder others) := by
    rw [sidebarFiles, hothers]
    rfl
  rw [hother]
  refine congrArg Except.ok (eq_of_pairwise_lt (pairwise_sidebarFiles hother)
    (pairwise_sidebarFiles hfiles) fun path => ?_)
  simp only [mem_sidebarFiles_iff (h.wellFormed htree) hother,
    h.isFileBelow_iff htree, mem_sidebarFiles_iff htree hfiles]

/-! ## What is loaded -/

variable [Host]

theorem fragmentReadings_of_sameListing {readings : List (Reading Fragment)}
    (hreadings : fragmentReadings tree root = .ok readings) :
    fragmentReadings other root = .ok readings := by
  obtain ⟨files, hfiles, rfl⟩ := readings_eq hreadings
  rw [fragmentReadings, fragmentFiles_of_sameListing h htree hfiles]
  refine congrArg Except.ok (List.map_congr_left fun path _ => ?_)
  rw [readFragment_congr (h.node_eq htree path)]
  rfl

theorem sidebarReadings_of_sameListing {readings : List (Reading SidebarIndex)}
    (hreadings : sidebarReadings tree root = .ok readings) :
    sidebarReadings other root = .ok readings := by
  obtain ⟨files, hfiles, hread⟩ := exists_of_bind_eq_ok hreadings
  obtain rfl := Except.ok.inj hread
  rw [sidebarReadings, sidebarFiles_of_sameListing h htree hfiles]
  refine congrArg Except.ok (List.map_congr_left fun path _ => ?_)
  rw [readSidebar_congr (h.node_eq htree path)]

/-- The order in which a tree lists its files makes no difference.  The scans
find the same files, each once and in the order of the parts of their paths, and
loading comes to the same. -/
theorem load_of_perm (root : Path) (expected : Option Int) :
    (∀ files, fragmentFiles tree root = .ok files →
      fragmentFiles other root = .ok files ∧ files.Nodup ∧
        (files.Pairwise fun a b => a.parts < b.parts) ∧
        ∀ path, path ∈ files ↔ path.suffix ∈ [".js", ".json", ".yaml", ".yml"] ∧
          ∃ place, tree.IsFileBelow (root.child "implementors") path place) ∧
    (∀ files, sidebarFiles tree root = .ok files →
      sidebarFiles other root = .ok files ∧ files.Nodup ∧
        (files.Pairwise fun a b => a.parts < b.parts) ∧
        ∀ path, path ∈ files ↔ ∃ crate place,
          path = (root.child crate).child "sidebar-items.js" ∧
            tree.IsFileBelow root path place) ∧
    ∀ index, (load tree root expected).1 = .ok index →
      load other root expected = load tree root expected := by
  refine ⟨fun files hfiles => ?_, fun files hfiles => ?_,
    fun index hindex => ?_⟩
  · exact ⟨fragmentFiles_of_sameListing h htree hfiles,
      fragmentFiles_spec htree hfiles⟩
  · exact ⟨sidebarFiles_of_sameListing h htree hfiles,
      sidebarFiles_spec htree hfiles⟩
  · obtain ⟨fragments, sidebars, hfragments, hsidebars, -⟩ :=
      eq_loaded_of_load hindex
    simp only [load, deliverAll, loadSidebars, hfragments, hsidebars,
      fragmentReadings_of_sameListing h htree hfragments,
      sidebarReadings_of_sameListing h htree hsidebars]

end

/-! ## Two scripts -/

def scriptPlace : List String := ["docs", "implementors", "a", "b.js"]

def hyphenPlace : List String := ["docs", "implementors", "a-b.js"]

def scriptTree : FileTree :=
  { nodes := [(scriptPlace, .file []), (hyphenPlace, .file [])] }

def swappedTree : FileTree :=
  { nodes := [(hyphenPlace, .file []), (scriptPlace, .file [])] }

def scriptPaths : List Path := [⟨.slash, scriptPlace⟩, ⟨.slash, hyphenPlace⟩]

theorem fragmentFiles_scripts :
    fragmentFiles scriptTree ⟨.slash, ["docs"]⟩ = .ok scriptPaths := by
  have hplace : scriptTree.place
      (Path.child ⟨.slash, ["docs"]⟩ implementorsDirectory) =
      .ok ["docs", "implementors"] :=
    FileTree.place_eq_ok_iff.mpr ⟨by decide, by decide, rfl⟩
  exact fragmentFiles_of_found
    (filesAlong_of_hasFile (by decide) hplace (by decide) (by decide))
    (by decide) (by decide)

/-- An empty script is none. -/
theorem isPassable_scripts :
    ∀ path ∈ scriptPaths,
      (readingOf scriptTree ⟨.slash, ["docs"]⟩ path).IsPassable := by
  intro path hpath
  have hplace : scriptTree.place path = .ok path.components := by
    simp only [scriptPaths, List.mem_cons, List.not_mem_nil, or_false] at hpath
    obtain rfl | rfl := hpath <;>
      exact FileTree.place_eq_ok_iff.mpr ⟨by decide, by decide, rfl⟩
  have hall : ∀ path ∈ scriptPaths, scriptTree.nodeAt? path.components =
      some (.file []) ∧
      IsBelow ⟨.slash, ["docs"]⟩ path ∧ isStructured path = false := by
    decide
  obtain ⟨hnode, hbelow, hscript⟩ := hall path hpath
  have hread (name : String) : fragmentOfText path name (String.ofList []) =
      .error (.format (.notFragment name)) := by
    rw [fragmentOfText, hscript]
    rfl
  intro fault hfault
  rw [readingOf, readFragment_eq hbelow,
    readText_of_place hplace hnode rfl rfl rfl] at hfault
  change fragmentOfText path _ _ = _ at hfault
  rw [hread] at hfault
  exact .inl ⟨_, (Except.error.inj hfault).symm⟩

/-- The text of the path that comes first is the greater one. -/
theorem load_of_perm_swapped : ∃ index,
    scriptTree.WellFormed ∧ SameListing scriptTree swappedTree ∧
      Path.toText ⟨.slash, hyphenPlace⟩ < Path.toText ⟨.slash, scriptPlace⟩ ∧
      fragmentFiles swappedTree ⟨.slash, ["docs"]⟩ = .ok scriptPaths ∧
      (load scriptTree ⟨.slash, ["docs"]⟩ none).1 = .ok index ∧
      load swappedTree ⟨.slash, ["docs"]⟩ none =
        load scriptTree ⟨.slash, ["docs"]⟩ none := by
  have htree : scriptTree.WellFormed := by decide
  have hsame : SameListing scriptTree swappedTree := ⟨rfl, List.Perm.swap _ _ _⟩
  have hload := @load_docs _ scriptTree ⟨.slash, ["docs"]⟩ none _
    (FileTree.place_eq_ok_iff.mpr ⟨by decide, by decide, rfl⟩) (by decide)
    (by decide) (FileTree.place_eq_ok_iff.mpr ⟨by decide, by decide, rfl⟩)
    (by decide) fragmentFiles_scripts isPassable_scripts
  obtain ⟨hfragments, -, hsameLoad⟩ :=
    load_of_perm hsame htree ⟨.slash, ["docs"]⟩ none
  exact ⟨_, htree, hsame, by decide +kernel,
    (hfragments _ fragmentFiles_scripts).1, hload, hsameLoad _ hload⟩

end Bundle

end TraitIndex
