import Mathlib.Data.List.Sort
import Mathlib.Data.Set.List
import TraitIndex.Proofs.Bundle.Growth
import TraitIndex.Proofs.Bundle.Sidebars
import TraitIndex.Proofs.Implementor.TraitPaths

/-!
# A bundle at another place

What a fragment file holds depends on its text and on the way to it from the
root of the bundle, and not on the way to the root.  So a bundle that is loaded
from another root comes to the same registry.
-/

namespace TraitIndex

theorem lt_of_append_lt_append {before names others : List String}
    (h : before ++ names < before ++ others) : names < others := by
  induction before with
  | nil => exact h
  | cons name before ih =>
      obtain hlt | ⟨-, hrest⟩ := List.cons_lt_cons_iff.mp h
      · exact absurd hlt (String.lt_irrefl _)
      · exact ih hrest

namespace Bundle

/-! ## Paths of fragments -/

def fragmentPath (root : Path) (names : List String) : Path :=
  root.along (implementorsDirectory :: names)

section

variable (root otherRoot : Path) {names : List String}

theorem fragmentPath_injective : Function.Injective (fragmentPath root) := by
  intro names others h
  exact (List.cons.inj (List.append_cancel_left (Path.mk.inj h).2)).2

theorem isBelow_fragmentPath (names : List String) :
    IsBelow root (fragmentPath root names) :=
  ⟨rfl, List.isPrefixOf_iff_prefix.mpr (List.prefix_append _ _)⟩

theorem suffix_fragmentPath (names : List String) :
    (fragmentPath root names).suffix =
      (Path.mk .relative (implementorsDirectory :: names)).suffix := by
  have hne : implementorsDirectory :: names ≠ [] := List.cons_ne_nil _ _
  have hname : (fragmentPath root names).name =
      (Path.mk .relative (implementorsDirectory :: names)).name :=
    (Path.name_along root hne).trans (Path.name_along ⟨.relative, []⟩ hne).symm
  rw [Path.suffix, Path.suffix, hname]

theorem isFragmentFile_fragmentPath (names : List String) :
    isFragmentFile (fragmentPath root names) =
      isFragmentFile ⟨.relative, implementorsDirectory :: names⟩ := by
  rw [isFragmentFile, isStructured, suffix_fragmentPath]
  rfl

theorem nameBelow_fragmentPath (names : List String) :
    nameBelow root (fragmentPath root names) =
      Path.toText ⟨.relative, implementorsDirectory :: names⟩ :=
  nameBelow_append _

theorem traitOfPath_fragmentPath (hne : names ≠ []) :
    traitOfPath (fragmentPath otherRoot names) =
      traitOfPath (fragmentPath root names) := by
  rw [fragmentPath, fragmentPath, ← List.dropLast_concat_getLast hne, ←
    List.cons_append, traitOfPath_along, traitOfPath_along]

theorem fragmentOfText_fragmentPath (hne : names ≠ []) :
    fragmentOfText (fragmentPath otherRoot names)
        (nameBelow otherRoot (fragmentPath otherRoot names)) =
      fragmentOfText (fragmentPath root names)
        (nameBelow root (fragmentPath root names)) := by
  funext text
  rw [fragmentOfText, fragmentOfText, isStructured, isStructured, formatOf,
    formatOf, suffix_fragmentPath, suffix_fragmentPath, nameBelow_fragmentPath,
    nameBelow_fragmentPath, traitOfPath_fragmentPath root otherRoot hne]

end

/-! ## What is found -/

/-- A fragment file stands at a place by names below the directory
`implementors`. -/
def IsFragmentAt (tree : FileTree) (place names : List String) : Prop :=
  isFragmentFile ⟨.relative, implementorsDirectory :: names⟩ = true ∧
    tree.HasFile (place ++ implementorsDirectory :: names)

theorem IsFragmentAt.ne_nil {tree : FileTree} {place names : List String}
    (h : IsFragmentAt tree place names) : names ≠ [] := by
  rintro rfl
  have hfragment : isFragmentFile ⟨.relative, [implementorsDirectory]⟩ =
      false := by decide
  exact Bool.false_ne_true (hfragment.symm.trans h.1)

theorem IsFragmentAt.no_climb {tree : FileTree} {place names : List String}
    (h : IsFragmentAt tree place names) (htree : tree.WellFormed) :
    ".." ∉ implementorsDirectory :: names := fun hmem =>
  (htree.isName _ h.2.mem_keys ".." (List.mem_append_right place hmem)).ne_dots
    rfl

section

variable {tree : FileTree} {root : Path} {place : List String}
  {files : List Path} (hplace : tree.place root = .ok place)
  (hfiles : fragmentFiles tree root = .ok files)

include hplace hfiles

theorem place_implementors
    (hnode : tree.nodeAt? (place ++ [implementorsDirectory]) =
      some .directory) :
    tree.place (root.child implementorsDirectory) =
      .ok (place ++ [implementorsDirectory]) := by
  have hname : ∀ name ∈ [implementorsDirectory], Path.IsName name := by decide
  have hdown := FileTree.place_along hplace hname (by simp [hnode])
  split at hdown
  · -- A path that is too long cannot be looked into.
    obtain ⟨found, hfound, -⟩ := exists_of_fragmentFiles hfiles
    cases (filesAlong_of_tooLong hdown).symm.trans hfound
  · exact hdown

variable (htree : tree.WellFormed)

include htree

theorem mem_fragmentFiles_iff_names {path : Path} :
    path ∈ files ↔ ∃ names, fragmentPath root names = path ∧
      IsFragmentAt tree place names := by
  rw [mem_fragmentFiles_iff htree hfiles]
  constructor
  · rintro ⟨hwanted, target, below, names, hbelow, -, rfl, rfl, hfile⟩
    obtain rfl := FileTree.place_along_eq hplace (by decide) hbelow
    rw [Path.child_along] at hwanted ⊢
    refine ⟨names, rfl, ?_, by rwa [List.append_assoc] at hfile⟩
    rwa [← isFragmentFile_fragmentPath root]
  · rintro ⟨names, rfl, hfragment⟩
    obtain ⟨name, rest, rfl⟩ := List.exists_cons_of_ne_nil hfragment.ne_nil
    obtain ⟨hwanted, content, hcontent⟩ := hfragment
    rw [List.append_cons] at hcontent
    have hdirectory := FileTree.nodeAt?_of_node_below hcontent
    exact ⟨(isFragmentFile_fragmentPath root _).trans hwanted, _, _,
      name :: rest, place_implementors hplace hfiles hdirectory, hdirectory,
      (Path.child_along ..).symm, rfl, content, hcontent⟩

/-- The scan in terms of the ways from the directory `implementors`. -/
theorem exists_names :
    ∃ found : List (List String), files = found.map (fragmentPath root) ∧
    found.Pairwise (· < ·) ∧ ∀ names, names ∈ found ↔
      IsFragmentAt tree place names := by
  have heach : ∀ path ∈ files, ∃ names, fragmentPath root names = path := by
    intro path hpath
    obtain ⟨names, hnames, -⟩ :=
      (mem_fragmentFiles_iff_names hplace hfiles htree).mp hpath
    exact ⟨names, hnames⟩
  obtain ⟨found, rfl⟩ := (Set.range_list_map (fragmentPath root)).ge heach
  refine ⟨found, rfl, ?_, fun names => ?_⟩
  · have hsorted := pairwise_fragmentFiles htree.keys_nodup hfiles
    refine (List.pairwise_map.mp hsorted).imp fun {names others} hlt => ?_
    rw [fragmentPath, fragmentPath, Path.parts_along, Path.parts_along,
      List.append_cons root.parts _ names, List.append_cons root.parts _ others]
        at hlt
    exact lt_of_append_lt_append hlt
  · rw [← List.mem_map_of_injective (fragmentPath_injective root),
      mem_fragmentFiles_iff_names hplace hfiles htree]
    constructor
    · rintro ⟨others, heq, hothers⟩
      exact fragmentPath_injective root heq ▸ hothers
    · exact fun hnames => ⟨names, rfl, hnames⟩

theorem node_of_mem_fragmentFiles {names : List String}
    (hnames : IsFragmentAt tree place names) :
    ∃ content, tree.node (fragmentPath root names) = .ok (.file content) ∧
      tree.nodeAt? (place ++ implementorsDirectory :: names) =
        some (.file content) := by
  have hpath :=
    (mem_fragmentFiles_iff_names hplace hfiles htree).mpr ⟨names, rfl, hnames⟩
  obtain ⟨found, hfound, content, hcontent⟩ :=
    FileTree.isFile_eq_ok_true_iff.mp (isFile_of_mem_fragmentFiles hfiles hpath)
  obtain rfl := FileTree.place_along_eq hplace (hnames.no_climb htree) hfound
  exact ⟨content, FileTree.node_of_place hfound hcontent, hcontent⟩

end

/-! ## What is read -/

theorem purposeOf_fragmentPath (root otherRoot : Path) (names : List String) :
    purposeOf (fragmentPath otherRoot names) =
      purposeOf (fragmentPath root names) := by
  simp only [purposeOf, isStructured, formatOf, suffix_fragmentPath]

theorem readText_eq_of_file [Host] {tree other : FileTree}
    {path otherPath : Path} {content : List UInt8}
    (h : tree.node path = .ok (.file content))
    (hother : other.node otherPath = .ok (.file content)) (purpose : Purpose) :
    readText other otherPath purpose = readText tree path purpose := by
  simp only [readText, FileTree.readText, FileTree.readBytes, Host.isExhausted,
    h, hother]

/-- The same bundle at two places, which may be in two trees or on two ways
through one tree. -/
structure SameBundle (tree other : FileTree) (root otherRoot : Path)
    (place otherPlace : List String) : Prop where
  wellFormed : tree.WellFormed
  wellFormed_other : other.WellFormed
  place_root : tree.place root = .ok place
  place_otherRoot : other.place otherRoot = .ok otherPlace
  nodeAt_below : ∀ names, other.nodeAt? (otherPlace ++ names) =
    tree.nodeAt? (place ++ names)

namespace SameBundle

variable {tree other : FileTree} {root otherRoot : Path}
  {place otherPlace : List String}
  (h : SameBundle tree other root otherRoot place otherPlace)

include h

theorem isFragmentAt_iff {names : List String} :
    IsFragmentAt other otherPlace names ↔ IsFragmentAt tree place names := by
  rw [IsFragmentAt, IsFragmentAt, FileTree.HasFile, FileTree.HasFile,
    h.nodeAt_below]

section

variable {files others : List Path}
  (hfiles : fragmentFiles tree root = .ok files)
  (hothers : fragmentFiles other otherRoot = .ok others)

include hfiles hothers

theorem exists_found : ∃ found : List (List String),
    files = found.map (fragmentPath root) ∧
        others = found.map (fragmentPath otherRoot) ∧
      ∀ names ∈ found, IsFragmentAt tree place names := by
  obtain ⟨found, rfl, hsorted, hmem⟩ :=
    exists_names h.place_root hfiles h.wellFormed
  obtain ⟨otherFound, rfl, hotherSorted, hotherMem⟩ :=
    exists_names h.place_otherRoot hothers h.wellFormed_other
  obtain rfl : found = otherFound :=
    hsorted.eq_of_mem_iff hotherSorted fun names => by
    rw [hmem, hotherMem, h.isFragmentAt_iff]
  exact ⟨found, rfl, rfl, fun names => (hmem names).mp⟩

theorem readFragment_eq [Host] {names : List String}
    (hnames : IsFragmentAt tree place names) :
    readFragment other (fragmentPath otherRoot names) otherRoot =
      readFragment tree (fragmentPath root names) root := by
  obtain ⟨content, hnode, hcontent⟩ :=
    node_of_mem_fragmentFiles h.place_root hfiles h.wellFormed hnames
  obtain ⟨otherContent, hotherNode, hother⟩ :=
    node_of_mem_fragmentFiles h.place_otherRoot hothers h.wellFormed_other
      (h.isFragmentAt_iff.mpr hnames)
  obtain rfl : content = otherContent := by
    rw [h.nodeAt_below, hcontent] at hother
    exact FileNode.file.inj (Option.some.inj hother)
  rw [Bundle.readFragment_eq (isBelow_fragmentPath root names),
    Bundle.readFragment_eq (isBelow_fragmentPath otherRoot names),
    readText_eq_of_file hnode hotherNode, purposeOf_fragmentPath root otherRoot,
    fragmentOfText_fragmentPath root otherRoot hnames.ne_nil]

end

end SameBundle

/-! ## What is loaded -/

/-- What loading the same bundle from two roots comes to. -/
structure SameContents [Host] (tree other : FileTree) (root otherRoot : Path)
    (index otherIndex : DocsIndex) (found : List (List String)) : Prop where
  fragmentFiles : fragmentFiles tree root = .ok (found.map (fragmentPath root))
  fragmentFiles_other :
    Bundle.fragmentFiles other otherRoot =
      .ok (found.map (fragmentPath otherRoot))
  traitOfPath : ∀ names ∈ found,
    traitOfPath (fragmentPath otherRoot names) =
      traitOfPath (fragmentPath root names)
  readFragment : ∀ names ∈ found,
    readFragment other (fragmentPath otherRoot names) otherRoot =
      readFragment tree (fragmentPath root names) root
  registry : otherIndex.registry = index.registry
  report : otherIndex.report = index.report

theorem SameBundle.sameContents [Host] {tree other : FileTree}
    {root otherRoot : Path} {place otherPlace : List String}
    {expected otherExpected : Option Int} {index otherIndex : DocsIndex}
    (h : SameBundle tree other root otherRoot place otherPlace)
    (hload : (load tree root expected).1 = .ok index)
    (hother : (load other otherRoot otherExpected).1 = .ok otherIndex) :
    ∃ found, SameContents tree other root otherRoot index otherIndex found := by
  obtain ⟨readings, sidebars, hreadings, -, rfl⟩ := eq_loaded_of_load hload
  obtain ⟨otherReadings, otherSidebars, hotherReadings, -, rfl⟩ :=
    eq_loaded_of_load hother
  obtain ⟨files, hfiles, rfl⟩ := readings_eq hreadings
  obtain ⟨others, hothers, rfl⟩ := readings_eq hotherReadings
  obtain ⟨found, rfl, rfl, hfound⟩ := h.exists_found hfiles hothers
  have hread : ∀ names ∈ found, _ := fun names hnames =>
    h.readFragment_eq hfiles hothers (hfound names hnames)
  have hsame : (found.map (fragmentPath otherRoot)).map
      (readingOf other otherRoot) =
      (found.map (fragmentPath root)).map (readingOf tree root) := by
    rw [List.map_map, List.map_map]
    refine List.map_congr_left fun names hnames => ?_
    simp only [Function.comp_apply, readingOf, nameBelow_fragmentPath,
      hread names hnames]
  refine ⟨found, hfiles, hothers, ?_, hread, ?_, ?_⟩
  · exact fun names hnames => traitOfPath_fragmentPath root otherRoot
      (hfound names hnames).ne_nil
  · rw [hsame]
    rfl
  · rw [hsame]
    rfl

/-! ## Scripts -/

def scriptNames (modules : List String) (name : String) : List String :=
  "implementors" :: modules ++ ["trait." ++ name ++ ".js"]

def scriptPath (root : Path) (modules : List String) (name : String) : Path :=
  root.join (.ofText ("/".intercalate (scriptNames modules name)))

section

variable {modules : List String} {name : String}
  (hmodules : ∀ directory ∈ modules, directory ≠ "" ∧ directory ≠ "." ∧
    '/' ∉ directory.toList)
  (hname : '/' ∉ name.toList)

include hmodules hname

theorem scriptPath_eq (root : Path) :
    scriptPath root modules name =
      fragmentPath root (modules ++ ["trait." ++ name ++ ".js"]) := by
  have hcomponents : ∀ component ∈ scriptNames modules name,
      component ≠ "" ∧ component ≠ "." ∧ '/' ∉ component.toList := by
    intro component hcomponent
    rw [scriptNames, List.mem_append, List.mem_cons, List.mem_singleton]
      at hcomponent
    obtain (rfl | hmodule) | rfl := hcomponent
    · decide
    · exact hmodules component hmodule
    · refine ⟨?_, ?_, by simpa using hname⟩ <;>
        · intro heq
          have hchars := congrArg String.toList heq
          simp at hchars
  have hnames : scriptNames modules name ≠ [] := List.cons_ne_nil _ _
  rw [scriptPath, Path.ofText_joined hnames hcomponents, Path.along_relative]
  rfl

/-- The trait is the whole way down unless a directory on the way is called like
the first. -/
theorem traitOfPath_scriptPath_eq_iff (root : Path) :
    traitOfPath (scriptPath root modules name) =
        "::".intercalate (modules ++ [name]) ↔
      "implementors" ∉ modules := by
  rw [scriptPath_eq hmodules hname]
  exact traitOfPath_along_eq_iff root modules (traitFileName_trait rfl)

theorem traitOfPath_scriptPath {before after : List String}
    (hsplit : modules = before ++ "implementors" :: after)
    (hafter : "implementors" ∉ after) (root : Path) :
    traitOfPath (scriptPath root modules name) =
      "::".intercalate (after ++ [name]) := by
  have hfile : traitFileName ⟨.relative, ["trait." ++ name ++ ".js"]⟩ = name :=
    traitFileName_trait rfl
  have hlast : componentsAfterLast implementorsDirectory
      (implementorsDirectory :: modules) = after := by
    rw [hsplit, ← List.cons_append, implementorsDirectory,
      componentsAfterLast_of_mem List.mem_cons_self,
      componentsAfterLast_cons hafter]
  have htrait := traitOfPath_along root modules ("trait." ++ name ++ ".js")
  rw [hfile, hlast] at htrait
  rw [scriptPath_eq hmodules hname]
  exact htrait

/-- What is read from a script does not depend on the way to the root. -/
theorem fragmentOfText_scriptPath (root otherRoot : Path) (text : String) :
    fragmentOfText (scriptPath otherRoot modules name)
        (nameBelow otherRoot (scriptPath otherRoot modules name)) text =
      fragmentOfText (scriptPath root modules name)
        (nameBelow root (scriptPath root modules name)) text := by
  rw [scriptPath_eq hmodules hname, scriptPath_eq hmodules hname,
    fragmentOfText_fragmentPath root otherRoot (by simp)]

/-- The trait of a script is its place under `implementors`.  It is the whole
way down from that directory unless a directory on the way has the same name;
then the way starts at the last one of that name.  What is above makes no
difference, not even to what is read from the script, and so a bundle comes to
the same from any root. -/
theorem trait_of_place [Host] (root : Path) :
    (traitOfPath (scriptPath root modules name) =
        "::".intercalate (modules ++ [name]) ↔
      "implementors" ∉ modules) ∧
    (∀ before after, modules = before ++ "implementors" :: after →
        "implementors" ∉ after →
      traitOfPath (scriptPath root modules name) =
        "::".intercalate (after ++ [name])) ∧
    (∀ otherRoot text,
      fragmentOfText (scriptPath otherRoot modules name)
          (nameBelow otherRoot (scriptPath otherRoot modules name)) text =
        fragmentOfText (scriptPath root modules name)
          (nameBelow root (scriptPath root modules name)) text) ∧
    ∀ tree other otherRoot place otherPlace,
      SameBundle tree other root otherRoot place otherPlace →
      ∀ expected otherExpected index otherIndex,
          (load tree root expected).1 = .ok index →
        (load other otherRoot otherExpected).1 = .ok otherIndex →
        ∃ found, SameContents tree other root otherRoot index
          otherIndex found :=
  ⟨traitOfPath_scriptPath_eq_iff hmodules hname root,
    fun _ _ hsplit hafter => traitOfPath_scriptPath hmodules hname hsplit
      hafter root,
    fragmentOfText_scriptPath hmodules hname root,
    fun _ _ _ _ _ h _ _ _ _ hload hother => h.sameContents hload hother⟩

end

/-! ## Round a directory -/

/-- The way to the bundle from the root of the machine, by its directory
`implementors` and back up. -/
def roundRoot : Path := ⟨.slash, ["docs", "implementors", ".."]⟩

theorem sameBundle_listed :
    SameBundle listedTree listedTree
      ⟨.relative, ["docs"]⟩ roundRoot ["docs"] ["docs"] where
  wellFormed := by decide
  wellFormed_other := by decide
  place_root := FileTree.place_eq_ok_iff.mpr ⟨by decide, by decide, rfl⟩
  place_otherRoot := FileTree.place_eq_ok_iff.mpr ⟨by decide, by decide, rfl⟩
  nodeAt_below := fun _ => rfl

theorem load_round : ∃ index, (load listedTree roundRoot none).1 = .ok index ∧
    index.report.delivered = ["implementors/b.json"] := by
  have hplace : listedTree.place (roundRoot.child implementorsDirectory) =
      .ok ["docs", "implementors"] :=
    FileTree.place_eq_ok_iff.mpr ⟨by decide, by decide, rfl⟩
  have hfiles : fragmentFiles listedTree roundRoot =
      .ok [fragmentPath roundRoot ["b.json"]] :=
    fragmentFiles_of_found
      (filesAlong_of_hasFile (by decide) hplace (by decide) (by decide))
      (by decide) (List.pairwise_singleton _ _)
  have hread : ∃ fragment,
      readFragment listedTree (fragmentPath roundRoot ["b.json"]) roundRoot =
        .ok fragment :=
    exists_readFragment_listed
      (FileTree.place_eq_ok_iff.mpr ⟨by decide, by decide, rfl⟩) (by decide)
      ⟨rfl, by decide⟩ (by decide) (by decide)
  obtain ⟨fragment, hfragment⟩ := hread
  refine ⟨_, load_docs sameBundle_listed.place_otherRoot (by decide)
    (by decide) (FileTree.place_eq_ok_iff.mpr ⟨by decide, by decide, rfl⟩)
    (by decide) hfiles ?_, ?_⟩
  · exact List.forall_mem_singleton.mpr (isPassable_of_read hfragment)
  · have hname : nameBelow roundRoot (fragmentPath roundRoot ["b.json"]) =
        "implementors/b.json" := by
      decide
    simp [loaded, taken, readingOf, hfragment, hname]

/-- A name with a dot, a directory on the way that starts it again, and a bundle
on two ways. -/
theorem trait_of_place_round :
    traitOfPath ⟨.slash,
      ["implementors", "x", "implementors", "core", "implementors", "fmt",
        "trait.Display.v2.js"]⟩ = "fmt::Display.v2" ∧
    ∃ index otherIndex found, (load listedTree ⟨.relative, ["docs"]⟩ none).1 =
        .ok index ∧
      (load listedTree roundRoot none).1 = .ok otherIndex ∧
      otherIndex.report.delivered = ["implementors/b.json"] ∧
      SameContents listedTree listedTree ⟨.relative, ["docs"]⟩ roundRoot index
        otherIndex
        found := by
  obtain ⟨index, hindex⟩ := load_listed
  obtain ⟨otherIndex, hother, hdelivered⟩ := load_round
  have hmodules : ∀ directory ∈ ["core", "implementors", "fmt"],
      directory ≠ "" ∧ directory ≠ "." ∧ '/' ∉ directory.toList := by
    decide
  have hname : '/' ∉ "Display.v2".toList := by decide
  obtain ⟨-, hlast, -⟩ :=
    trait_of_place hmodules hname ⟨.slash, ["implementors", "x"]⟩
  obtain ⟨-, -, -, hloads⟩ :=
    trait_of_place hmodules hname ⟨.relative, ["docs"]⟩
  obtain ⟨found, hfound⟩ :=
    hloads _ _ _ _ _ sameBundle_listed _ _ _ _ hindex hother
  exact ⟨hlast ["core"] ["fmt"] rfl (by decide), index, otherIndex, found,
    hindex, hother, hdelivered, hfound⟩

end Bundle

end TraitIndex
