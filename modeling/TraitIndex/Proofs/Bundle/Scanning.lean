import TraitIndex.Bundle.Scan
import TraitIndex.Proofs.Files.Trees
import TraitIndex.Proofs.Lists

/-!
# What a scan finds

A scan of a directory lists the files below it that it looks for, each once and
in the order of their paths.  Which they are depends on what stands in the tree
and not on how the tree lists it.
-/

namespace TraitIndex.Bundle

variable {tree other : FileTree}

/-! ## Order -/

theorem inOrder_perm (paths : List Path) : (inOrder paths).Perm paths :=
  List.mergeSort_perm _ _

theorem pairwise_inOrder (paths : List Path) :
    (inOrder paths).Pairwise fun a b => ¬b.parts < a.parts := by
  have htrans (a b c : Path) (hab : a.le b = true) (hbc : b.le c = true) :
      a.le c = true :=
    Path.le_trans hab hbc
  exact (List.pairwise_mergeSort htrans Path.le_total paths).imp Path.le_iff.mp

theorem pairwise_inOrder_lt {paths : List Path} {root : PathRoot}
    (hroot : ∀ path ∈ paths, path.root = root) (hnodup : paths.Nodup) :
    (inOrder paths).Pairwise fun a b => a.parts < b.parts := by
  have hsorted :=
    (pairwise_inOrder paths).and ((inOrder_perm paths).nodup_iff.mpr hnodup)
  refine hsorted.imp_of_mem ?_
  rintro a b ha hb ⟨hle, hne⟩
  rw [(inOrder_perm paths).mem_iff] at ha hb
  have hparts : a.parts ≠ b.parts :=
    fun h => hne (Path.eq_of_parts ((hroot a ha).trans (hroot b hb).symm) h)
  exact Decidable.byContradiction fun hlt => hparts (List.le_antisymm hle hlt)

theorem nodup_of_pairwise_lt {paths : List Path}
    (h : paths.Pairwise fun a b => a.parts < b.parts) : paths.Nodup := by
  refine h.imp ?_
  rintro a b hlt rfl
  exact List.lt_irrefl _ hlt

theorem eq_of_pairwise_lt {files others : List Path}
    (hfiles : files.Pairwise fun a b => a.parts < b.parts)
    (hothers : others.Pairwise fun a b => a.parts < b.parts)
    (h : ∀ path, path ∈ files ↔ path ∈ others) : files = others := by
  have hperm := (List.perm_ext_iff_of_nodup (nodup_of_pairwise_lt hfiles)
    (nodup_of_pairwise_lt hothers)).mpr h
  refine hperm.eq_of_pairwise ?_ hfiles hothers
  intro a b _ _ hab hba
  exact absurd hba (List.lt_asymm hab)

/-! ## Files among paths -/

theorem filesAmong_eq {paths files : List Path}
    (h : filesAmong tree paths = .ok files) :
    files = paths.filter fun path => (tree.isFile path).toOption =
      some true := by
  induction paths generalizing files with
  | nil => exact (Except.ok.inj h).symm
  | cons path rest ih =>
      obtain ⟨isFile, hisFile, h⟩ := exists_of_bind_eq_ok h
      obtain ⟨others, hothers, h⟩ := exists_of_bind_eq_ok h
      obtain rfl := Except.ok.inj h
      rw [List.filter_cons, hisFile, ← ih hothers]
      cases isFile <;> rfl

theorem exists_filesAmong_iff {paths : List Path} :
    (∃ files, filesAmong tree paths = .ok files) ↔
      ∀ path ∈ paths, ∃ isFile, tree.isFile path = .ok isFile := by
  induction paths with
  | nil => simp [filesAmong]
  | cons path rest ih =>
      rw [List.forall_mem_cons, ← ih, filesAmong]
      cases tree.isFile path with
      | error fault => simp [bind, Except.bind]
      | ok isFile =>
          cases filesAmong tree rest <;>
            simp [bind, Except.bind, pure, Except.pure]

theorem filesAmong_of_no_files {paths : List Path}
    (h : ∀ path ∈ paths, tree.isFile path = .ok false) :
    filesAmong tree paths = .ok [] := by
  induction paths with
  | nil => rfl
  | cons path rest ih =>
      obtain ⟨hpath, hrest⟩ := List.forall_mem_cons.mp h
      rw [filesAmong, hpath, ih hrest]
      rfl

theorem filesAmong_of_files {paths : List Path}
    (h : ∀ path ∈ paths, tree.isFile path = .ok true) :
    filesAmong tree paths = .ok paths := by
  induction paths with
  | nil => rfl
  | cons path rest ih =>
      obtain ⟨hpath, hrest⟩ := List.forall_mem_cons.mp h
      rw [filesAmong, hpath, ih hrest]
      rfl

/-! ## Files along ways -/

section

variable {directory : Path} {ways : List String → List (List String)}

theorem filesAlong_of_place {place : List String}
    (h : tree.place directory = .ok place) :
    filesAlong tree directory ways =
      if tree.nodeAt? place = some .directory then
        filesAmong tree ((ways place).map directory.along)
      else .ok [] := by
  unfold filesAlong
  simp only [FileTree.isDirectory_of_place h, h, bind, Except.bind,
    decide_eq_true_eq]
  rfl

theorem filesAlong_of_missing (h : tree.place directory = .error .missing) :
    filesAlong tree directory ways = .ok [] := by
  unfold filesAlong FileTree.isDirectory FileTree.node? FileTree.node
  rw [h]
  rfl

theorem filesAlong_of_tooLong (h : tree.place directory = .error .nameTooLong) :
    filesAlong tree directory ways =
      .error (.nameTooLong directory.toText) := by
  unfold filesAlong FileTree.isDirectory FileTree.node? FileTree.node
  rw [h]
  rfl

/-- Where there is a file at the end of every way, all of them are found. -/
theorem filesAlong_of_hasFile (htree : tree.WellFormed) {below : List String}
    (hplace : tree.place directory = .ok below)
    (hdirectory : tree.nodeAt? below = some .directory)
    (h : ∀ names ∈ ways below, tree.HasFile (below ++ names) ∧
      (directory.along names).toText.utf8ByteSize ≤ FileTree.pathLimit) :
    filesAlong tree directory ways =
      .ok ((ways below).map directory.along) := by
  rw [filesAlong_of_place hplace, if_pos hdirectory]
  refine filesAmong_of_files fun path hpath => ?_
  obtain ⟨names, hnames, rfl⟩ := List.mem_map.mp hpath
  obtain ⟨hfile, hlength⟩ := h names hnames
  exact FileTree.IsFileBelow.isFile htree
    ⟨below, names, hplace, hdirectory, rfl, rfl, hfile⟩ hlength

variable {files : List Path}
  (hfiles : filesAlong tree directory ways = .ok files)

include hfiles

theorem filesAlong_cases :
    (∃ below, tree.place directory = .ok below ∧
      tree.nodeAt? below = some .directory ∧
      filesAmong tree ((ways below).map directory.along) = .ok files) ∨
    (∀ below, tree.place directory = .ok below →
      tree.nodeAt? below ≠ some .directory) ∧ files = [] := by
  cases hplace : tree.place directory with
  | ok below =>
      rw [filesAlong_of_place hplace] at hfiles
      by_cases hdirectory : tree.nodeAt? below = some .directory
      · exact .inl ⟨below, rfl, hdirectory,
          by rwa [if_pos hdirectory] at hfiles⟩
      · rw [if_neg hdirectory] at hfiles
        refine .inr ⟨?_, (Except.ok.inj hfiles).symm⟩
        rintro _ ⟨⟩
        exact hdirectory
  | error obstacle =>
      refine .inr ⟨by simp, ?_⟩
      unfold filesAlong at hfiles
      obtain ⟨isDirectory, -, hfiles⟩ := exists_of_bind_eq_ok hfiles
      rw [hplace] at hfiles
      cases isDirectory <;> exact (Except.ok.inj hfiles).symm

theorem mem_filesAlong_iff {path : Path} :
    path ∈ files ↔ ∃ below names, tree.place directory = .ok below ∧
      tree.nodeAt? below = some .directory ∧ names ∈ ways below ∧
      path = directory.along names ∧ tree.isFile path = .ok true := by
  obtain ⟨below, hplace, hdirectory, hfound⟩ | ⟨hnone, rfl⟩ :=
    filesAlong_cases hfiles
  · rw [filesAmong_eq hfound, List.mem_filter, List.mem_map, decide_eq_true_eq,
      toOption_eq_some_iff]
    constructor
    · rintro ⟨⟨names, hnames, rfl⟩, hfile⟩
      exact ⟨below, names, hplace, hdirectory, hnames, rfl, hfile⟩
    · rintro ⟨other, names, hother, -, hnames, rfl, hfile⟩
      obtain rfl := Except.ok.inj (hplace.symm.trans hother)
      exact ⟨⟨names, hnames, rfl⟩, hfile⟩
  · refine iff_of_false List.not_mem_nil ?_
    rintro ⟨below, names, hplace, hdirectory, -⟩
    exact hnone below hplace hdirectory

theorem root_of_mem_filesAlong {path : Path} (hpath : path ∈ files) :
    path.root = directory.root := by
  obtain ⟨below, names, -, -, -, rfl, -⟩ := (mem_filesAlong_iff hfiles).mp hpath
  rfl

theorem nodup_filesAlong (hways : ∀ below, (ways below).Nodup) :
    files.Nodup := by
  obtain ⟨below, -, -, hfound⟩ | ⟨-, rfl⟩ := filesAlong_cases hfiles
  · rw [filesAmong_eq hfound]
    refine List.Pairwise.filter _ (List.pairwise_map.mpr ((hways below).imp ?_))
    intro names others hne heq
    exact hne (List.append_cancel_left (Path.mk.inj heq).2)
  · exact List.nodup_nil

/-- What is found along a way that does not climb is a file below the
directory. -/
theorem isFileBelow_of_mem (hways : ∀ below, ∀ names ∈ ways below, ".." ∉ names)
    {path : Path} (hpath : path ∈ files) :
    ∃ below names, names ∈ ways below ∧ path = directory.along names ∧
      tree.IsFileBelow directory path (below ++ names) := by
  obtain ⟨below, names, hplace, hdirectory, hnames, rfl, hfile⟩ :=
    (mem_filesAlong_iff hfiles).mp hpath
  obtain ⟨found, hfound, hfile⟩ := FileTree.isFile_eq_ok_true_iff.mp hfile
  obtain rfl := FileTree.place_along_eq hplace (hways below names hnames) hfound
  exact ⟨below, names, hnames, rfl, below, names, hplace, hdirectory, rfl,
    rfl, hfile⟩

/-- A file below the directory is found if one of the ways leads to it.  Its
path is not too long, for then nothing would have been found. -/
theorem mem_of_isFileBelow (htree : tree.WellFormed) {names place : List String}
    (hfile : tree.IsFileBelow directory (directory.along names) place)
    (hways : ∀ below, place = below ++ names → names ∈ ways below) :
    directory.along names ∈ files := by
  obtain ⟨below, others, hplace, hdirectory, halong, rfl, hhas⟩ := id hfile
  obtain rfl : names = others := List.append_cancel_left (Path.mk.inj halong).2
  obtain ⟨_, hsame, -, hfound⟩ | ⟨hnone, -⟩ := filesAlong_cases hfiles
  · obtain rfl := Except.ok.inj (hplace.symm.trans hsame)
    have hway := hways below rfl
    obtain ⟨isFile, hisFile⟩ := exists_filesAmong_iff.mp ⟨files, hfound⟩ _
      (List.mem_map_of_mem hway)
    have hlength : (directory.along names).toText.utf8ByteSize ≤
        FileTree.pathLimit := by
      by_contra hlong
      have hnames : ∀ name ∈ names, Path.IsName name := fun name hname =>
        htree.isName _ hhas.mem_keys name (List.mem_append_right below hname)
      obtain ⟨content, hcontent⟩ := hhas
      have hplaced := FileTree.place_along hplace hnames (by simp [hcontent])
      rw [if_pos (Nat.not_le.mp hlong)] at hplaced
      have herror := FileTree.isFile_eq_error_iff.mpr ⟨hplaced, rfl⟩
      cases hisFile.symm.trans herror
    exact (mem_filesAlong_iff hfiles).mpr
      ⟨below, names, hplace, hdirectory, hway, rfl, hfile.isFile htree hlength⟩
  · exact absurd hdirectory (hnone below hplace)

end

/-! ## Fragments -/

section

variable {root : Path} {files : List Path}

theorem exists_of_fragmentFiles (hfiles : fragmentFiles tree root = .ok files) :
    ∃ found, filesAlong tree (root.child implementorsDirectory) tree.namesBelow
        = .ok found ∧
      files = inOrder (found.filter isFragmentFile) := by
  obtain ⟨found, hfound, h⟩ := exists_of_bind_eq_ok hfiles
  exact ⟨found, hfound, (Except.ok.inj h).symm⟩

theorem isName_of_mem_namesBelow (htree : tree.WellFormed)
    {place names : List String} (hnames : names ∈ tree.namesBelow place) :
    ∀ name ∈ names, Path.IsName name := by
  intro name hname
  exact htree.isName _ (FileTree.mem_namesBelow.mp hnames).2 name
    (List.mem_append_right place hname)

theorem mem_fragmentFiles_iff (htree : tree.WellFormed)
    (hfiles : fragmentFiles tree root = .ok files) {path : Path} :
    path ∈ files ↔ isFragmentFile path = true ∧
      ∃ place, tree.IsFileBelow (root.child implementorsDirectory) path
        place := by
  obtain ⟨found, hfound, rfl⟩ := exists_of_fragmentFiles hfiles
  rw [(inOrder_perm _).mem_iff, List.mem_filter, and_comm]
  refine and_congr_right fun _ => ⟨fun hpath => ?_, ?_⟩
  · obtain ⟨below, names, -, -, hfile⟩ := isFileBelow_of_mem hfound
      (fun _ _ hnames hmem =>
        (isName_of_mem_namesBelow htree hnames _ hmem).ne_dots rfl) hpath
    exact ⟨_, hfile⟩
  · rintro ⟨place, hfile⟩
    obtain ⟨below, names, -, hdirectory, rfl, rfl, hhas⟩ := id hfile
    refine mem_of_isFileBelow hfound htree hfile fun other hother => ?_
    rw [FileTree.mem_namesBelow, ← hother]
    exact ⟨FileTree.IsFileBelow.names_ne_nil hdirectory hhas, hhas.mem_keys⟩

theorem isFile_of_mem_fragmentFiles
    (hfiles : fragmentFiles tree root = .ok files) {path : Path}
    (hpath : path ∈ files) : tree.isFile path = .ok true := by
  obtain ⟨found, hfound, rfl⟩ := exists_of_fragmentFiles hfiles
  rw [(inOrder_perm _).mem_iff, List.mem_filter] at hpath
  obtain ⟨-, -, -, -, -, -, hfile⟩ := (mem_filesAlong_iff hfound).mp hpath.1
  exact hfile

theorem pairwise_fragmentFiles (hkeys : tree.nodes.keys.Nodup)
    (hfiles : fragmentFiles tree root = .ok files) :
    files.Pairwise fun a b => a.parts < b.parts := by
  obtain ⟨found, hfound, rfl⟩ := exists_of_fragmentFiles hfiles
  have hroot : ∀ path ∈ found.filter isFragmentFile, path.root = root.root :=
    fun path hpath =>
    root_of_mem_filesAlong hfound (List.mem_filter.mp hpath).1
  exact pairwise_inOrder_lt hroot
    ((nodup_filesAlong hfound (FileTree.nodup_namesBelow hkeys)).filter _)

theorem fragmentFiles_of_found {found : List Path}
    (hfound : filesAlong tree (root.child implementorsDirectory) tree.namesBelow
      = .ok found)
    (hfiles : found.filter isFragmentFile = files)
    (hsorted : files.Pairwise fun a b => a.le b = true) :
    fragmentFiles tree root = .ok files := by
  rw [fragmentFiles, hfound]
  change Except.ok (inOrder _) = _
  rw [hfiles, inOrder, List.mergeSort_of_pairwise hsorted]

end

/-! ## Sidebars -/

section

variable {root : Path} {files : List Path}

theorem exists_of_sidebarFiles (hfiles : sidebarFiles tree root = .ok files) :
    ∃ found, filesAlong tree root (sidebarWays tree) = .ok found ∧
      files = inOrder found := by
  obtain ⟨found, hfound, h⟩ := exists_of_bind_eq_ok hfiles
  exact ⟨found, hfound, (Except.ok.inj h).symm⟩

theorem isName_of_mem_directoriesIn (htree : tree.WellFormed)
    {place : List String} {name : String}
    (hname : name ∈ tree.directoriesIn place) : Path.IsName name := by
  rw [FileTree.directoriesIn, List.mem_filter, List.mem_eraseDups,
    List.mem_filterMap] at hname
  obtain ⟨⟨names, hnames, hhead⟩, -⟩ := hname
  exact isName_of_mem_namesBelow htree hnames name (List.mem_of_mem_head? hhead)

theorem nodup_sidebarWays (tree : FileTree) (place : List String) :
    (sidebarWays tree place).Nodup := by
  refine List.pairwise_map.mpr (((nodup_eraseDups _).filter _).imp ?_)
  intro crate other hne heq
  exact hne (List.cons.inj heq).1

theorem mem_sidebarFiles_iff (htree : tree.WellFormed)
    (hfiles : sidebarFiles tree root = .ok files) {path : Path} :
    path ∈ files ↔ ∃ crate place, path = root.along [crate, sidebarName] ∧
      tree.IsFileBelow root path place := by
  obtain ⟨found, hfound, rfl⟩ := exists_of_sidebarFiles hfiles
  rw [(inOrder_perm _).mem_iff]
  constructor
  · intro hpath
    have hways : ∀ below, ∀ names ∈ sidebarWays tree below, ".." ∉ names := by
      intro below names hnames
      obtain ⟨crate, hcrate, rfl⟩ := List.mem_map.mp hnames
      have hne := (isName_of_mem_directoriesIn htree hcrate).ne_dots
      simp [hne.symm, sidebarName]
    obtain ⟨below, names, hnames, rfl, hfile⟩ :=
      isFileBelow_of_mem hfound hways hpath
    obtain ⟨crate, -, rfl⟩ := List.mem_map.mp hnames
    exact ⟨crate, _, rfl, hfile⟩
  · rintro ⟨crate, place, rfl, hfile⟩
    refine mem_of_isFileBelow hfound htree hfile fun below hplace => ?_
    refine List.mem_map_of_mem (FileTree.mem_directoriesIn.mpr ?_)
    obtain ⟨-, -, -, -, -, -, content, hcontent⟩ := hfile
    rw [hplace, List.append_cons] at hcontent
    exact FileTree.nodeAt?_of_node_below hcontent

theorem pairwise_sidebarFiles (hfiles : sidebarFiles tree root = .ok files) :
    files.Pairwise fun a b => a.parts < b.parts := by
  obtain ⟨found, hfound, rfl⟩ := exists_of_sidebarFiles hfiles
  exact pairwise_inOrder_lt (fun _ => root_of_mem_filesAlong hfound)
    (nodup_filesAlong hfound (nodup_sidebarWays tree))

theorem sidebarFiles_of_found
    (hfound : filesAlong tree root (sidebarWays tree) = .ok files)
    (hsorted : files.Pairwise fun a b => a.le b = true) :
    sidebarFiles tree root = .ok files := by
  rw [sidebarFiles, hfound]
  change Except.ok (inOrder _) = _
  rw [inOrder, List.mergeSort_of_pairwise hsorted]

end

end TraitIndex.Bundle
