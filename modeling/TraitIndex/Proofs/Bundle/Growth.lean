import TraitIndex.Proofs.Bundle.Balance

/-!
# One file more

A file that comes to a tree leaves what stood there where it stood, so the scan
finds the files it found before, and maybe the new one between them.  If that
one can be read, its records are merged among the others; if not, the registry
is the same as without it.
-/

namespace TraitIndex

/-! ## A tree with one file more -/

namespace FileTree

/-- One tree is another one with a new file in it. -/
structure AddsFile (tree other : FileTree) (place : List String)
    (content : List UInt8) :
    Prop where
  working : other.working = tree.working
  wellFormed : other.WellFormed
  perm : other.nodes.Perm ((place, .file content) :: tree.nodes)

/-- A new file opens no other way to a directory.  None does that comes alone,
into a directory that was there before.  One that brings directories with it
does not either when the path does not climb back from them, or has led to a
directory before. -/
def KeepsWay (tree : FileTree) (directory : Path)
    (place : List String) : Prop :=
  tree.nodeAt? place.dropLast = some .directory ∨ ".." ∉ directory.components ∨
    tree.isDirectory directory = .ok true

namespace AddsFile

variable {tree other : FileTree} {place : List String} {content : List UInt8}
  (h : AddsFile tree other place content)

include h

theorem keys_perm : other.nodes.keys.Perm (place :: tree.nodes.keys) :=
  h.perm.map Prod.fst

theorem mem_keys {node : List String} (hnode : node ∈ tree.nodes.keys) :
    node ∈ other.nodes.keys :=
  h.keys_perm.mem_iff.mpr (List.mem_cons_of_mem _ hnode)

theorem not_mem_keys : place ∉ tree.nodes.keys :=
  (List.nodup_cons.mp (h.keys_perm.nodup_iff.mp h.wellFormed.keys_nodup)).1

theorem keys_nodup : tree.nodes.keys.Nodup :=
  (List.nodup_cons.mp (h.keys_perm.nodup_iff.mp h.wellFormed.keys_nodup)).2

theorem find?_of_ne {node : List String} (hne : node ≠ place) :
    other.nodes.find? node = tree.nodes.find? node := by
  apply Option.ext
  intro found
  rw [Assoc.find?_eq_some_iff h.wellFormed.keys_nodup,
    Assoc.find?_eq_some_iff h.keys_nodup, h.perm.mem_iff, List.mem_cons,
    or_iff_right fun heq => hne (Prod.mk.inj heq).1]

theorem hasBelow {node : List String} (hnode : tree.hasBelow node = true) :
    other.hasBelow node = true := by
  obtain ⟨key, hkey, hbelow⟩ := hasBelow_iff.mp hnode
  exact hasBelow_iff.mpr ⟨key, h.mem_keys hkey, hbelow⟩

theorem wellFormed_tree : tree.WellFormed where
  keys_nodup := h.keys_nodup
  ne_nil node hnode := h.wellFormed.ne_nil node (h.mem_keys hnode)
  isName node hnode := h.wellFormed.isName node (h.mem_keys hnode)
  hasBelow_file node found hfile := by
    have hother := h.wellFormed.hasBelow_file node found
      (h.perm.mem_iff.mpr (List.mem_cons_of_mem _ hfile))
    exact Bool.eq_false_iff.mpr fun hbelow => Bool.eq_false_iff.mp hother
      (h.hasBelow hbelow)

/-! ### What stands where -/

theorem nodeAt?_file_iff {node : List String} (hne : node ≠ place)
    (found : List UInt8) :
    other.nodeAt? node = some (.file found) ↔
      tree.nodeAt? node = some (.file found) := by
  rw [FileTree.nodeAt?_file_iff, FileTree.nodeAt?_file_iff, h.find?_of_ne hne]
  refine and_congr_right fun _ => and_congr_left fun hfind => ?_
  have hmem := Assoc.mem_of_find? hfind
  exact iff_of_true
    (h.wellFormed.hasBelow_file _ _
      (h.perm.mem_iff.mpr (List.mem_cons_of_mem _ hmem)))
    (h.wellFormed_tree.hasBelow_file _ _ hmem)

theorem hasFile_iff {node : List String} (hne : node ≠ place) :
    other.HasFile node ↔ tree.HasFile node :=
  exists_congr (h.nodeAt?_file_iff hne)

theorem ne_of_hasFile {node : List String} (hfile : tree.HasFile node) :
    node ≠ place := by
  rintro rfl
  exact h.not_mem_keys hfile.mem_keys

theorem nodeAt?_directory {node : List String}
    (hnode : tree.nodeAt? node = some .directory) :
    other.nodeAt? node = some .directory := by
  rw [nodeAt?_directory_iff] at hnode ⊢
  obtain hnil | hbelow | hfind := hnode
  · exact .inl hnil
  · exact .inr (.inl (h.hasBelow hbelow))
  · have hne : node ≠ place := by
      rintro rfl
      exact h.not_mem_keys
        (Assoc.isSome_find?_iff.mp (Option.isSome_of_eq_some hfind))
    exact .inr (.inr ((h.find?_of_ne hne).trans hfind))

theorem nodeAt?_directory_iff
    (hparent : tree.nodeAt? place.dropLast = some .directory)
    {node : List String} :
    other.nodeAt? node = some .directory ↔
      tree.nodeAt? node = some .directory := by
  refine ⟨fun hnode => ?_, h.nodeAt?_directory⟩
  obtain hnil | hbelow | hfind := FileTree.nodeAt?_directory_iff.mp hnode
  · exact FileTree.nodeAt?_directory_iff.mpr (.inl hnil)
  · obtain ⟨key, hkey, hprefix, hne⟩ := hasBelow_iff.mp hbelow
    obtain rfl | hkey := List.mem_cons.mp (h.keys_perm.mem_iff.mp hkey)
    · obtain ⟨rest, rfl⟩ := hprefix
      have hrest : rest ≠ [] := by
        rintro rfl
        exact hne (List.append_nil _).symm
      rw [List.dropLast_append_of_ne_nil hrest] at hparent
      cases hdropped : rest.dropLast with
      | nil => rwa [hdropped, List.append_nil] at hparent
      | cons name others =>
          rw [hdropped] at hparent
          exact nodeAt?_of_node_below hparent
    · exact nodeAt?_of_hasBelow (hasBelow_iff.mpr ⟨key, hkey, hprefix, hne⟩)
  · have hne : node ≠ place := by
      rintro rfl
      have hfile := (Assoc.find?_eq_some_iff h.wellFormed.keys_nodup).mpr
        (h.perm.mem_iff.mpr List.mem_cons_self)
      cases hfind.symm.trans hfile
    rw [h.find?_of_ne hne] at hfind
    exact FileTree.nodeAt?_directory_iff.mpr (.inr (.inr hfind))

/-! ### Files below a directory -/

section

variable {directory path : Path} {node : List String}

theorem place_directory {found : List String}
    (hplace : tree.place directory = .ok found) :
    other.place directory = .ok found :=
  place_of_directories h.working (fun _ => h.nodeAt?_directory) hplace

theorem isFileBelow (hfile : tree.IsFileBelow directory path node) :
    other.IsFileBelow directory path node := by
  obtain ⟨below, names, hplace, hdirectory, hpath, hnode, hhas⟩ := hfile
  have hother :=
    (h.hasFile_iff (h.ne_of_hasFile (hnode ▸ hhas))).mpr (hnode ▸ hhas)
  exact ⟨below, names, h.place_directory hplace, h.nodeAt?_directory hdirectory,
    hpath, hnode, hnode ▸ hother⟩

theorem place_of_keepsWay (hway : tree.KeepsWay directory place)
    {below : List String} (hplace : other.place directory = .ok below)
    (hdirectory : tree.nodeAt? below = some .directory) :
    tree.place directory = .ok below := by
  obtain hparent | hclimb | hthere := hway
  · exact place_of_directories h.working.symm
      (fun _ => (h.nodeAt?_directory_iff hparent).mp)
      hplace
  · exact place_of_no_climb h.working hclimb hplace (by simp [hdirectory])
      (by simp [h.nodeAt?_directory hdirectory])
  · cases htree : tree.place directory with
    | error obstacle =>
        unfold isDirectory node? node at hthere
        rw [htree] at hthere
        cases obstacle <;> cases hthere
    | ok found => exact (h.place_directory htree).symm.trans hplace

theorem isFileBelow_of_other (hway : tree.KeepsWay directory place)
    (hfile : other.IsFileBelow directory path node) (hne : node ≠ place) :
    tree.IsFileBelow directory path node := by
  obtain ⟨below, names, hplace, hdirectory, hpath, rfl, hhas⟩ := hfile
  have hfile := (h.hasFile_iff hne).mp hhas
  -- The new file may be what makes a directory of a place; here an old file
  -- does.
  have hbelow : tree.nodeAt? below = some .directory := by
    obtain ⟨found, hfound⟩ := id hfile
    cases names with
    | nil =>
        rw [← h.nodeAt?_file_iff hne, List.append_nil, hdirectory] at hfound
        cases hfound
    | cons name rest => exact nodeAt?_of_node_below hfound
  exact ⟨below, names, h.place_of_keepsWay hway hplace hbelow, hbelow, hpath,
    rfl, hfile⟩

theorem node_eq (hfile : tree.IsFileBelow directory path node) :
    other.node path = tree.node path := by
  obtain ⟨below, names, hplace, -, rfl, rfl, hhas⟩ := hfile
  have hnames : ∀ name ∈ names, Path.IsName name := fun name hname =>
    h.wellFormed_tree.isName _ hhas.mem_keys name
      (List.mem_append_right below hname)
  obtain ⟨found, hfound⟩ := id hhas
  have hother := (h.nodeAt?_file_iff (h.ne_of_hasFile hhas) found).mpr hfound
  have htree := place_along hplace hnames (by simp [hfound])
  have hsame := place_along (h.place_directory hplace) hnames (by simp [hother])
  rw [FileTree.node, FileTree.node, hsame, htree]
  split_ifs
  · rfl
  · simp only [bind, Except.bind, hfound, hother]

end

end AddsFile

end FileTree

namespace Bundle

open FileTree

/-! ## What is found -/

section

variable {tree other : FileTree} {place : List String} {content : List UInt8}
  {root : Path}

def IsNewFragment (other : FileTree) (root path : Path)
    (place : List String) : Prop :=
  isFragmentFile path = true ∧
    other.IsFileBelow (root.child implementorsDirectory) path place

variable (h : AddsFile tree other place content)
  (hway : tree.KeepsWay (root.child implementorsDirectory) place)
  {files others : List Path} (hfiles : fragmentFiles tree root = .ok files)
  (hothers : fragmentFiles other root = .ok others)

include h hway hfiles hothers

theorem mem_fragmentFiles_of_addsFile_iff {path : Path} :
    path ∈ others ↔ path ∈ files ∨ IsNewFragment other root path place := by
  rw [mem_fragmentFiles_iff h.wellFormed_tree hfiles,
    mem_fragmentFiles_iff h.wellFormed hothers, IsNewFragment, ← and_or_left]
  refine and_congr_right fun _ => ?_
  constructor
  · rintro ⟨node, hfile⟩
    by_cases hne : node = place
    · exact .inr (hne ▸ hfile)
    · exact .inl ⟨node, h.isFileBelow_of_other hway hfile hne⟩
  · rintro (⟨node, hfile⟩ | hfile)
    · exact ⟨node, h.isFileBelow hfile⟩
    · exact ⟨place, hfile⟩

omit hway hothers in
theorem not_mem_files {path : Path}
    (hnew : IsNewFragment other root path place) :
    path ∉ files := by
  intro hpath
  obtain ⟨-, node, hfile⟩ :=
    (mem_fragmentFiles_iff h.wellFormed_tree hfiles).mp hpath
  have hplace : node = place :=
    (hnew.2.path_eq_iff (h.isFileBelow hfile)).mp rfl
  obtain ⟨below, names, -, -, -, hnode, hhas⟩ := hfile
  exact h.ne_of_hasFile hhas (hnode ▸ hplace)

/-- The scan finds what it found before, and the new file in its place if it is
a fragment file. -/
theorem fragmentFiles_cases :
    (others = files ∧ ∀ path, ¬IsNewFragment other root path place) ∨
    ∃ before path after, IsNewFragment other root path place ∧
      others = before ++ path :: after ∧ files = before ++ after := by
  have hmem (path : Path) :
      path ∈ others ↔ path ∈ files ∨ IsNewFragment other root path place :=
    mem_fragmentFiles_of_addsFile_iff h hway hfiles hothers
  have hsorted := pairwise_fragmentFiles h.keys_nodup hfiles
  have hsortedOthers := pairwise_fragmentFiles h.wellFormed.keys_nodup hothers
  by_cases hnew : ∃ path, IsNewFragment other root path place
  · obtain ⟨path, hpath⟩ := hnew
    obtain ⟨before, after, rfl⟩ :=
      List.append_of_mem ((hmem path).mpr (.inr hpath))
    refine .inr ⟨before, path, after, hpath, rfl, ?_⟩
    have hsub : (before ++ after).Sublist (before ++ path :: after) :=
      (List.sublist_cons_self path after).append_left before
    have hrest : path ∉ before ++ after :=
      (List.nodup_cons.mp
        (List.nodup_middle.mp (nodup_of_pairwise_lt hsortedOthers))).1
    -- Both lists are in order, so it is enough that they have the same members.
    refine eq_of_pairwise_lt hsorted (hsortedOthers.sublist hsub)
      fun found => ?_
    by_cases hfound : found = path
    · rw [hfound]
      exact iff_of_false (not_mem_files h hfiles hpath) hrest
    · have hold : ¬IsNewFragment other root found place :=
        fun hother => hfound ((hpath.2.path_eq_iff hother.2).mpr rfl)
      have hfoundMem := hmem found
      rw [or_iff_left hold, List.mem_append, List.mem_cons, or_iff_right hfound]
        at hfoundMem
      rw [← hfoundMem, List.mem_append]
  · rw [not_exists] at hnew
    refine .inl ⟨eq_of_pairwise_lt hsortedOthers hsorted fun path => ?_, hnew⟩
    rw [hmem, or_iff_left (hnew path)]

omit hway hothers in
theorem readingOf_eq [Host] {path : Path} (hpath : path ∈ files) :
    readingOf other root path = readingOf tree root path := by
  obtain ⟨-, node, hfile⟩ :=
    (mem_fragmentFiles_iff h.wellFormed_tree hfiles).mp hpath
  rw [readingOf, readingOf, readFragment_congr (h.node_eq hfile)]

/-! ## What is taken up -/

theorem taken_cases [Host] :
    (taken (others.map (readingOf other root)) =
        taken (files.map (readingOf tree root)) ∧
      ∀ path fragment, IsNewFragment other root path place →
        readFragment other path root ≠ .ok fragment) ∨
    ∃ before path fragment after, IsNewFragment other root path place ∧
      readFragment other path root = .ok fragment ∧
      taken (files.map (readingOf tree root)) = before ++ after ∧
      taken (others.map (readingOf other root)) =
        before ++ (nameBelow root path, fragment) :: after := by
  have hread : files.map (readingOf other root) =
      files.map (readingOf tree root) :=
    List.map_congr_left fun path hpath => readingOf_eq h hfiles hpath
  rw [← hread]
  obtain ⟨rfl, hnone⟩ | ⟨before, path, after, hnew, rfl, rfl⟩ :=
    fragmentFiles_cases h hway hfiles hothers
  · exact .inl ⟨rfl, fun path _ hnew => absurd hnew (hnone path)⟩
  · have hold : taken ((before ++ after).map (readingOf other root)) =
        taken (before.map (readingOf other root)) ++ taken
          (after.map (readingOf other root)) := by
      rw [List.map_append, taken_append]
    have hall : taken ((before ++ path :: after).map (readingOf other root)) =
        taken (before.map (readingOf other root)) ++
          (taken [readingOf other root path] ++ taken
            (after.map (readingOf other root))) := by
      rw [← taken_append, ← taken_append, List.map_append, List.map_cons,
        List.singleton_append]
    rw [hold, hall]
    cases hresult : readFragment other path root with
    | ok fragment =>
        refine .inr ⟨_, path, fragment, _, hnew, hresult, rfl, ?_⟩
        simp only [taken, readingOf, hresult]
        rfl
    | error fault =>
        refine .inl ⟨?_, ?_⟩
        · simp only [taken, readingOf, hresult]
          rfl
        · intro found fragment hfound hok
          obtain rfl := (hnew.2.path_eq_iff hfound.2).mpr rfl
          cases hresult.symm.trans hok

end

/-! ## What is loaded -/

theorem mem_seen_loaded {readings : List (Reading Fragment)}
    {sidebars : List (Reading SidebarIndex)} {expected : Option Int}
    {identity : Identity} :
    identity ∈ (loaded readings sidebars expected).registry.seen ↔
      ∃ read ∈ taken readings,
        identity ∈ (Payload.fragment read.2).facts.map (·.identity) := by
  have hnone : identity ∉ Registry.empty.initialized.seen := List.not_mem_nil
  rw [loaded, Registry.mem_seen_mergeAll, or_iff_right hnone]
  simp only [List.mem_map, exists_exists_and_eq_and]

theorem mem_seen_loaded_insert {readings others : List (Reading Fragment)}
    {before after : List (String × Fragment)} {name : String}
    {fragment : Fragment} (hreadings : taken readings = before ++ after)
    (hothers : taken others = before ++ (name, fragment) :: after)
    (sidebars otherSidebars : List (Reading SidebarIndex))
    (expected : Option Int) (identity : Identity) :
    identity ∈ (loaded others otherSidebars expected).registry.seen ↔
      identity ∈ (loaded readings sidebars expected).registry.seen ∨
        identity ∈ (Payload.fragment fragment).facts.map (·.identity) := by
  rw [mem_seen_loaded, mem_seen_loaded, hreadings, hothers]
  simp only [List.mem_append, List.mem_cons, or_and_right, exists_or,
    exists_eq_left]
  rw [or_assoc]
  exact or_congr_right or_comm

theorem fragmentFiles_eq_nil {tree : FileTree} {root : Path} {files : List Path}
    (hfiles : fragmentFiles tree root = .ok files)
    (h : tree.isDirectory (root.child implementorsDirectory) ≠ .ok true) :
    files = [] := by
  obtain ⟨found, hfound, rfl⟩ := exists_of_fragmentFiles hfiles
  obtain ⟨below, hplace, hdirectory, -⟩ | ⟨-, rfl⟩ := filesAlong_cases hfound
  · exact absurd (FileTree.isDirectory_of_place hplace)
      (by simpa [hdirectory] using h)
  · rw [List.filter_nil, inOrder, List.mergeSort_nil]

section

variable [Host] {tree other : FileTree} {place : List String}
  {content : List UInt8} {root : Path} {expected : Option Int}
  {index otherIndex : DocsIndex} (hadds : AddsFile tree other place content)
  (hload : (load tree root expected).1 = .ok index)
  (hother : (load other root expected).1 = .ok otherIndex)

include hadds hload hother

/-- Loaded with the new file, a bundle takes up what it took up without it, with
what is read from the new file among it if anything is. -/
theorem loaded_cases
    (hway : tree.KeepsWay (root.child implementorsDirectory) place) :
    ∃ readings otherReadings sidebars otherSidebars,
      index = loaded readings sidebars expected ∧
      otherIndex = loaded otherReadings otherSidebars expected ∧
      ((taken otherReadings = taken readings ∧
          ∀ path fragment, IsNewFragment other root path place →
            readFragment other path root ≠ .ok fragment) ∨
        ∃ before path fragment after, IsNewFragment other root path place ∧
          readFragment other path root = .ok fragment ∧
          taken readings = before ++ after ∧
          taken otherReadings = before ++ (nameBelow root path, fragment) ::
            after) := by
  obtain ⟨readings, sidebars, hreadings, -, rfl⟩ := eq_loaded_of_load hload
  obtain ⟨otherReadings, otherSidebars, hotherReadings, -, rfl⟩ :=
    eq_loaded_of_load hother
  obtain ⟨files, hfiles, rfl⟩ := readings_eq hreadings
  obtain ⟨others, hothers, rfl⟩ := readings_eq hotherReadings
  exact ⟨_, _, sidebars, otherSidebars, rfl, rfl,
    taken_cases hadds hway hfiles hothers⟩

/-- Nothing that was registered is lost. -/
theorem seen_of_addsFile {identity : Identity}
    (h : identity ∈ index.registry.seen) :
    identity ∈ otherIndex.registry.seen := by
  by_cases hway : tree.KeepsWay (root.child implementorsDirectory) place
  · obtain ⟨readings, otherReadings, sidebars, otherSidebars, rfl, rfl,
      ⟨htaken, -⟩ | ⟨before, path, fragment, after, -, -, hold, hall⟩⟩ :=
        loaded_cases hadds hload hother hway
    · rw [mem_seen_loaded] at h ⊢
      rwa [htaken]
    · exact (mem_seen_loaded_insert hold hall sidebars otherSidebars expected
        identity).mpr
        (.inl h)
  · -- Where the path led to no directory before, nothing was registered.
    have hmissing : tree.isDirectory (root.child implementorsDirectory) ≠
        .ok true :=
      fun hthere => hway (.inr (.inr hthere))
    obtain ⟨readings, sidebars, hreadings, -, rfl⟩ := eq_loaded_of_load hload
    obtain ⟨files, hfiles, rfl⟩ := readings_eq hreadings
    obtain rfl := fragmentFiles_eq_nil hfiles hmissing
    obtain ⟨read, hread, -⟩ := mem_seen_loaded.mp h
    cases hread

variable (hway : tree.KeepsWay (root.child implementorsDirectory) place)

include hway

/-- A new file from which no fragment is read makes no difference to what has
been delivered and merged. -/
theorem registry_of_addsFile
    (hnone : ∀ path fragment, IsNewFragment other root path place →
      readFragment other path root ≠ .ok fragment) :
    otherIndex.registry = index.registry ∧ otherIndex.channel = index.channel ∧
      otherIndex.report.delivered = index.report.delivered ∧
      otherIndex.expected = index.expected := by
  obtain ⟨readings, otherReadings, sidebars, otherSidebars, rfl, rfl,
    ⟨htaken, -⟩ | ⟨before, path, fragment, after, hnew, hfragment, -⟩⟩ :=
      loaded_cases hadds hload hother hway
  · simp only [loaded, htaken, and_self]
  · exact absurd hfragment (hnone path fragment hnew)

/-- A fragment that is read from the new file adds the identities that it
states. -/
theorem seen_iff_of_addsFile {path : Path} {fragment : Fragment}
    (hnew : IsNewFragment other root path place)
    (hfragment : readFragment other path root = .ok fragment)
    (identity : Identity) :
    identity ∈ otherIndex.registry.seen ↔
      identity ∈ index.registry.seen ∨
        identity ∈ (Payload.fragment fragment).facts.map (·.identity) := by
  obtain ⟨readings, otherReadings, sidebars, otherSidebars, rfl, rfl,
    ⟨-, hnone⟩ | ⟨before, found, read, after, hfound, hread, hold, hall⟩⟩ :=
      loaded_cases hadds hload hother hway
  · exact absurd hfragment (hnone path fragment hnew)
  · obtain rfl := (hnew.2.path_eq_iff hfound.2).mpr rfl
    obtain rfl := Except.ok.inj (hfragment.symm.trans hread)
    exact mem_seen_loaded_insert hold hall sidebars otherSidebars
      expected identity

end

/-- A bundle that one file is added to keeps every identity it had.  If the file
opens no way to the fragments, then a file that is no fragment file, or cannot
be read, makes no difference to what has been delivered and merged; otherwise
what has been registered is what was registered before and what the file
states. -/
theorem load_of_addsFile [Host] {tree other : FileTree} {place : List String}
    {content : List UInt8} {root : Path} {expected : Option Int}
    {index otherIndex : DocsIndex} (hadds : AddsFile tree other place content)
    (hload : (load tree root expected).1 = .ok index)
    (hother : (load other root expected).1 = .ok otherIndex) :
    (∀ identity ∈ index.registry.seen, identity ∈ otherIndex.registry.seen) ∧
      (tree.KeepsWay (root.child implementorsDirectory) place →
        ((∀ path fragment, IsNewFragment other root path place →
            readFragment other path root ≠ .ok fragment) →
          otherIndex.registry = index.registry ∧
              otherIndex.channel = index.channel ∧
            otherIndex.report.delivered = index.report.delivered ∧
            otherIndex.expected = index.expected) ∧
        ∀ path fragment, IsNewFragment other root path place →
          readFragment other path root = .ok fragment → ∀ identity,
            identity ∈ otherIndex.registry.seen ↔
              identity ∈ index.registry.seen ∨
                identity ∈ (Payload.fragment fragment).facts.map
                  (·.identity)) :=
  ⟨fun _ => seen_of_addsFile hadds hload hother, fun hway =>
    ⟨registry_of_addsFile hadds hload hother hway,
      fun _ _ => seen_iff_of_addsFile hadds hload hother hway⟩⟩

/-! ## A broken script that comes to a list -/

theorem fragmentFiles_listed : fragmentFiles listedTree ⟨.relative, ["docs"]⟩ =
    .ok [⟨.relative, listedPlace⟩] := by
  have hplace : listedTree.place
      (Path.child ⟨.relative, ["docs"]⟩ implementorsDirectory) =
      .ok ["docs", "implementors"] :=
    FileTree.place_eq_ok_iff.mpr ⟨by decide, by decide, rfl⟩
  exact fragmentFiles_of_found
    (filesAlong_of_hasFile (by decide) hplace (by decide) (by decide))
    (by decide) (List.pairwise_singleton _ _)

theorem load_listed :
    ∃ index, (load listedTree ⟨.relative, ["docs"]⟩ none).1 = .ok index := by
  have hread : ∃ fragment,
      readFragment listedTree ⟨.relative, listedPlace⟩ ⟨.relative, ["docs"]⟩ =
        .ok fragment :=
    exists_readFragment_listed
      (FileTree.place_eq_ok_iff.mpr ⟨by decide, by decide, rfl⟩) (by decide)
      ⟨rfl, by decide⟩ (by decide) (by decide)
  obtain ⟨fragment, hfragment⟩ := hread
  refine ⟨_, load_docs
    (FileTree.place_eq_ok_iff.mpr ⟨by decide, by decide, rfl⟩) (by decide)
    (by decide) (FileTree.place_eq_ok_iff.mpr ⟨by decide, by decide, rfl⟩)
    (by decide) fragmentFiles_listed ?_⟩
  exact List.forall_mem_singleton.mpr (isPassable_of_read hfragment)

/-- The script with one bad line makes no difference to the registry, although
its other line is well-formed. -/
theorem load_of_addsFile_broken : ∃ index otherIndex,
    FileTree.AddsFile listedTree brokenTree brokenPlace
        (Text.encodeUtf8 brokenScript) ∧
      listedTree.KeepsWay
        (Path.child ⟨.relative, ["docs"]⟩ implementorsDirectory) brokenPlace ∧
      (load listedTree ⟨.relative, ["docs"]⟩ none).1 = .ok index ∧
      (load brokenTree ⟨.relative, ["docs"]⟩ none).1 = .ok otherIndex ∧
      IsNewFragment brokenTree ⟨.relative, ["docs"]⟩
        ⟨.relative, brokenPlace⟩ brokenPlace ∧
      otherIndex.registry = index.registry := by
  obtain ⟨index, hindex⟩ := load_listed
  obtain ⟨otherIndex, hother, -⟩ := load_broken
  have hadds : FileTree.AddsFile listedTree brokenTree brokenPlace
      (Text.encodeUtf8 brokenScript) :=
    ⟨rfl, by decide, .refl _⟩
  have hway : listedTree.KeepsWay
      (Path.child ⟨.relative, ["docs"]⟩ implementorsDirectory)
      brokenPlace :=
    .inr (.inl (by decide))
  have hplace : brokenTree.place ⟨.relative, ["docs", "implementors"]⟩ =
      .ok ["docs", "implementors"] :=
    FileTree.place_eq_ok_iff.mpr ⟨by decide, by decide, rfl⟩
  have hnew : IsNewFragment brokenTree ⟨.relative, ["docs"]⟩
      ⟨.relative, brokenPlace⟩ brokenPlace :=
    ⟨by decide, _, ["a.js"], hplace, by decide, rfl, rfl, by decide⟩
  obtain ⟨hinert, -⟩ := (load_of_addsFile hadds hindex hother).2 hway
  refine ⟨index, otherIndex, hadds, hway, hindex, hother, hnew, (hinert ?_).1⟩
  intro path fragment hpath hread
  obtain rfl := (hnew.2.path_eq_iff hpath.2).mpr rfl
  cases readFragment_broken.symm.trans hread

/-! ## A file that opens the way -/

def strayPlace : List String := ["new", "x.txt"]

def strayTree : FileTree :=
  { nodes := (strayPlace, .file []) :: listedTree.nodes }

/-- A root that goes into the directory of the new file and climbs back. -/
def strayRoot : Path := ⟨.relative, ["new", "..", "docs"]⟩

theorem load_without_stray :
    (load listedTree strayRoot none).1 = .ok (loaded [] [] none) := by
  have hmissing : listedTree.place strayRoot = .error .missing :=
    FileTree.place_eq_walk (by decide) (by decide)
  have hmissingChild :
      listedTree.place (strayRoot.child implementorsDirectory) =
        .error .missing :=
    FileTree.place_eq_walk (by decide) (by decide)
  have hfiles : fragmentFiles listedTree strayRoot = .ok [] :=
    fragmentFiles_of_found (filesAlong_of_missing hmissingChild) rfl .nil
  have hsidebars : sidebarFiles listedTree strayRoot = .ok [] :=
    sidebarFiles_of_found (filesAlong_of_missing hmissing) .nil
  apply load_of_passable
  · rw [fragmentReadings, hfiles]
    rfl
  · rw [sidebarReadings, hsidebars]
    rfl
  · simp
  · simp

theorem load_with_stray :
    ∃ index, (load strayTree strayRoot none).1 = .ok index ∧
    index.registry.stats.fragmentsMerged = 1 := by
  have hplace : strayTree.place (strayRoot.child implementorsDirectory) =
      .ok ["docs", "implementors"] :=
    FileTree.place_eq_ok_iff.mpr ⟨by decide, by decide, rfl⟩
  have htree : strayTree.WellFormed := by decide
  have hfiles : fragmentFiles strayTree strayRoot =
      .ok [strayRoot.along ["implementors", "b.json"]] :=
    fragmentFiles_of_found
      (filesAlong_of_hasFile htree hplace (by decide) (by decide)) (by decide)
      (List.pairwise_singleton _ _)
  have hread : ∃ fragment,
      readFragment strayTree (strayRoot.along ["implementors", "b.json"])
        strayRoot = .ok fragment :=
    exists_readFragment_listed
      (FileTree.place_eq_ok_iff.mpr ⟨by decide, by decide, rfl⟩) (by decide)
      ⟨rfl, by decide⟩ (by decide) (by decide)
  obtain ⟨fragment, hfragment⟩ := hread
  refine ⟨_, load_docs
    (FileTree.place_eq_ok_iff.mpr ⟨by decide, by decide, rfl⟩) (by decide)
    (by decide) (FileTree.place_eq_ok_iff.mpr ⟨by decide, by decide, rfl⟩)
    (by decide) hfiles ?_, ?_⟩
  · exact List.forall_mem_singleton.mpr (isPassable_of_read hfragment)
  · obtain ⟨contents, hcontents⟩ := exists_contents hfiles
    have hbalances := balances_loaded htree hfiles hcontents [] none
    rw [hbalances.fragmentsMerged]
    simp [loaded, taken, readingOf, hfragment]

/-- A file that is no fragment file can make a difference to the registry: with
it there is a directory that the root climbs back from. -/
theorem load_of_addsFile_stray : ∃ index otherIndex,
    FileTree.AddsFile listedTree strayTree strayPlace [] ∧
      (load listedTree strayRoot none).1 = .ok index ∧
      (load strayTree strayRoot none).1 = .ok otherIndex ∧
      (∀ path, ¬IsNewFragment strayTree strayRoot path strayPlace) ∧
      otherIndex.registry ≠ index.registry := by
  obtain ⟨otherIndex, hother, hmerged⟩ := load_with_stray
  refine ⟨_, otherIndex, ⟨rfl, by decide, .refl _⟩, load_without_stray,
    hother, ?_, ?_⟩
  · rintro path ⟨-, below, names, hplace, -, -, hnames, -⟩
    have hbelow : strayTree.place (strayRoot.child implementorsDirectory) =
        .ok ["docs", "implementors"] :=
      FileTree.place_eq_ok_iff.mpr ⟨by decide, by decide, rfl⟩
    obtain rfl := Except.ok.inj (hbelow.symm.trans hplace)
    simp [strayPlace] at hnames
  · intro hsame
    rw [hsame] at hmerged
    cases hmerged

end Bundle

end TraitIndex
