import TraitIndex.Proofs.Files.Paths
import TraitIndex.Proofs.Outcome

/-!
# What stands where in a tree

A tree lists its files in some order, and nothing that is looked up in it
depends on that order.  A path that leads somewhere leads there as well when
there are more directories, and a file that is listed below a directory is met
on the path that continues the path of the directory.
-/

namespace TraitIndex

theorem Assoc.find?_eq_some_iff {κ ν : Type} [DecidableEq κ]
    {fields : Assoc κ ν} (h : fields.keys.Nodup) {key : κ} {value : ν} :
    fields.find? key = some value ↔ (key, value) ∈ fields :=
  ⟨mem_of_find?, fun hmem => find?_of_mem h hmem⟩

namespace FileTree

/-- What a listing of files is like: each place is listed once, by names that
files can have, and nothing stands below a file. -/
structure WellFormed (tree : FileTree) : Prop where
  keys_nodup : tree.nodes.keys.Nodup
  ne_nil : ∀ place ∈ tree.nodes.keys, place ≠ []
  isName : ∀ place ∈ tree.nodes.keys, ∀ name ∈ place, Path.IsName name
  hasBelow_file : ∀ place content, (place, .file content) ∈ tree.nodes →
    tree.hasBelow place = false

variable {tree other : FileTree}

theorem wellFormed_iff : tree.WellFormed ↔
    tree.nodes.keys.Nodup ∧ (∀ place ∈ tree.nodes.keys, place ≠ []) ∧
      (∀ place ∈ tree.nodes.keys, ∀ name ∈ place, Path.IsName name) ∧
      ∀ field ∈ tree.nodes, field.2 ≠ .directory → tree.hasBelow field.1 =
        false := by
  constructor
  · rintro ⟨hkeys, hne, hnames, hfiles⟩
    refine ⟨hkeys, hne, hnames, ?_⟩
    rintro ⟨place, node⟩ hfield hnode
    cases node with
    | file content => exact hfiles place content hfield
    | directory => exact absurd rfl hnode
  · rintro ⟨hkeys, hne, hnames, hfiles⟩
    exact ⟨hkeys, hne, hnames, fun place content hfield => hfiles _ hfield
      (by simp)⟩

instance : Decidable tree.WellFormed :=
  decidable_of_iff _ wellFormed_iff.symm

/-! ## Nodes -/

theorem hasBelow_iff {place : List String} :
    tree.hasBelow place = true ↔ ∃ key ∈ tree.nodes.keys, place <+: key ∧
      place ≠ key := by
  simp [hasBelow, Assoc.keys]

theorem nodeAt?_of_hasBelow {place : List String}
    (h : tree.hasBelow place = true) :
    tree.nodeAt? place = some .directory := by
  simp [nodeAt?, h]

theorem nodeAt?_directory_iff {place : List String} :
    tree.nodeAt? place = some .directory ↔
      place = [] ∨ tree.hasBelow place = true ∨ tree.nodes.find? place =
        some .directory := by
  unfold nodeAt?
  split
  · next h =>
      rw [Bool.or_eq_true, List.isEmpty_iff] at h
      exact iff_of_true rfl (or_assoc.mp (.inl h))
  · next h =>
      rw [Bool.or_eq_true, List.isEmpty_iff, not_or] at h
      rw [or_iff_right h.1, or_iff_right h.2]

theorem nodeAt?_file_iff {place : List String} {content : List UInt8} :
    tree.nodeAt? place = some (.file content) ↔
      place ≠ [] ∧ tree.hasBelow place = false ∧
        tree.nodes.find? place = some (.file content) := by
  unfold nodeAt?
  split
  · next h =>
      simp only [Option.some.injEq, reduceCtorEq, false_iff]
      rintro ⟨hne, hbelow, -⟩
      simp [hne, hbelow] at h
  · next h =>
      simp only [Bool.or_eq_true, not_or, Bool.not_eq_true,
        List.isEmpty_eq_false_iff] at h
      simp [h]

/-- A file stands at a place. -/
def HasFile (tree : FileTree) (place : List String) : Prop :=
  ∃ content, tree.nodeAt? place = some (.file content)

theorem hasFile_iff {place : List String} :
    tree.HasFile place ↔ (tree.nodeAt? place).any (· != .directory) = true := by
  unfold HasFile
  cases tree.nodeAt? place with
  | none => simp
  | some node => cases node <;> simp

instance {place : List String} : Decidable (tree.HasFile place) :=
  decidable_of_iff _ hasFile_iff.symm

theorem HasFile.mem_keys {place : List String} (h : tree.HasFile place) :
    place ∈ tree.nodes.keys := by
  obtain ⟨content, hcontent⟩ := h
  have hfind := (nodeAt?_file_iff.mp hcontent).2.2
  exact Assoc.isSome_find?_iff.mp (by simp [hfind])

theorem nodeAt?_of_node_below {place : List String} {name : String}
    {rest : List String} {node : FileNode}
    (h : tree.nodeAt? (place ++ name :: rest) = some node) :
    tree.nodeAt? place = some .directory := by
  apply nodeAt?_of_hasBelow
  have hproper {key : List String} (hkey : place ++ name :: rest <+: key) :
      place <+: key ∧ place ≠ key := by
    refine ⟨(List.prefix_append _ _).trans hkey, ?_⟩
    rintro rfl
    have hlength := hkey.length_le
    rw [List.length_append, List.length_cons] at hlength
    omega
  rw [hasBelow_iff]
  cases hbelow : tree.hasBelow (place ++ name :: rest) with
  | true =>
      obtain ⟨key, hkey, hprefix, -⟩ := hasBelow_iff.mp hbelow
      exact ⟨key, hkey, hproper hprefix⟩
  | false =>
      have hfind : tree.nodes.find? (place ++ name :: rest) = some node := by
        simpa [nodeAt?, hbelow] using h
      have hkey := Assoc.isSome_find?_iff.mp (Option.isSome_of_eq_some hfind)
      exact ⟨_, hkey, hproper (List.prefix_refl _)⟩

theorem nodeAt?_of_perm (hkeys : tree.nodes.keys.Nodup)
    (hperm : tree.nodes.Perm other.nodes) (place : List String) :
    other.nodeAt? place = tree.nodeAt? place := by
  have hbelow : other.hasBelow place = tree.hasBelow place := hperm.symm.any_eq
  have hlisted : tree.nodes.keys.Perm other.nodes.keys := hperm.map Prod.fst
  have hother := hlisted.nodup_iff.mp hkeys
  have hfind : other.nodes.find? place = tree.nodes.find? place := by
    apply Option.ext
    intro node
    rw [Assoc.find?_eq_some_iff hother, Assoc.find?_eq_some_iff hkeys,
      hperm.mem_iff]
  rw [nodeAt?, nodeAt?, hbelow, hfind]

/-! ## Listings -/

theorem mem_namesBelow {place names : List String} :
    names ∈ tree.namesBelow place ↔
      names ≠ [] ∧ place ++ names ∈ tree.nodes.keys := by
  simp only [namesBelow, List.mem_map, List.mem_filter, Bool.and_eq_true,
    List.isPrefixOf_iff_prefix, bne_iff_ne]
  constructor
  · rintro ⟨node, ⟨hnode, ⟨rest, rfl⟩, hne⟩, rfl⟩
    rw [List.drop_left]
    exact ⟨by simpa using hne, hnode⟩
  · rintro ⟨hne, hnode⟩
    exact ⟨_, ⟨hnode, List.prefix_append _ _, by simpa using hne⟩,
      List.drop_left⟩

theorem nodup_namesBelow (hkeys : tree.nodes.keys.Nodup) (place : List String) :
    (tree.namesBelow place).Nodup := by
  unfold namesBelow
  refine List.pairwise_map.mpr ((List.Pairwise.filter _ hkeys).imp_of_mem ?_)
  intro a b ha hb hne heq
  have hprefix {node : List String}
      (hnode : node ∈ tree.nodes.keys.filter fun node =>
        place.isPrefixOf node && place != node) : place <+: node := by
    rw [List.mem_filter, Bool.and_eq_true, List.isPrefixOf_iff_prefix] at hnode
    exact hnode.2.1
  obtain ⟨names, rfl⟩ := hprefix ha
  obtain ⟨others, rfl⟩ := hprefix hb
  rw [List.drop_left, List.drop_left] at heq
  exact hne (congrArg (place ++ ·) heq)

theorem mem_directoriesIn {place : List String} {name : String} :
    name ∈ tree.directoriesIn place ↔
      tree.nodeAt? (place ++ [name]) = some .directory := by
  rw [directoriesIn, List.mem_filter, List.mem_eraseDups, List.mem_filterMap,
    decide_eq_true_eq, and_iff_right_iff_imp]
  intro hnode
  have hlisted : ∃ rest, place ++ name :: rest ∈ tree.nodes.keys := by
    obtain hnil | hbelow | hfind := nodeAt?_directory_iff.mp hnode
    · simp at hnil
    · obtain ⟨_, hkey, ⟨rest, rfl⟩, -⟩ := hasBelow_iff.mp hbelow
      exact ⟨rest, by rwa [List.append_assoc] at hkey⟩
    · exact ⟨[], Assoc.isSome_find?_iff.mp (Option.isSome_of_eq_some hfind)⟩
  obtain ⟨rest, hrest⟩ := hlisted
  exact ⟨name :: rest, mem_namesBelow.mpr ⟨List.cons_ne_nil _ _, hrest⟩, rfl⟩

/-! ## Walks -/

theorem walk_congr (h : ∀ place, other.nodeAt? place = tree.nodeAt? place)
    (place names : List String) :
    other.walk place names = tree.walk place names := by
  induction names generalizing place with
  | nil => rfl
  | cons name rest ih => simp only [walk, ih, h]

theorem walk_cons (tree : FileTree) (place : List String) (name : String)
    (rest : List String) :
    tree.walk place (name :: rest) =
      tree.walk place [name] >>= fun middle => tree.walk middle rest := by
  simp only [walk]
  split
  · split
    · rfl
    · split <;> rfl
  · rfl
  · rfl

theorem walk_append (tree : FileTree) (place names rest : List String) :
    tree.walk place (names ++ rest) =
      tree.walk place names >>= fun middle => tree.walk middle rest := by
  induction names generalizing place with
  | nil => rfl
  | cons name names ih =>
      rw [List.cons_append, walk_cons, walk_cons tree place name names,
        bind_assoc]
      simp only [ih]

theorem step_of_directories
    (h : ∀ place, tree.nodeAt? place = some .directory →
      other.nodeAt? place = some .directory)
    {place next : List String} {name : String}
    (hstep : tree.walk place [name] = .ok next) :
    other.walk place [name] = .ok next := by
  simp only [walk] at hstep ⊢
  split at hstep
  · next hdirectory =>
      rw [h place hdirectory]
      exact hstep
  · cases hstep
  · cases hstep

/-- A walk that leads somewhere leads there as well in a tree with more
directories. -/
theorem walk_of_directories
    (h : ∀ place, tree.nodeAt? place = some .directory →
      other.nodeAt? place = some .directory)
    {place next names : List String}
    (hwalk : tree.walk place names = .ok next) :
    other.walk place names = .ok next := by
  induction names generalizing place with
  | nil => exact hwalk
  | cons name rest ih =>
      rw [walk_cons] at hwalk ⊢
      cases hstep : tree.walk place [name] with
      | error obstacle =>
          rw [hstep] at hwalk
          cases hwalk
      | ok middle =>
          rw [hstep] at hwalk
          rw [step_of_directories h hstep]
          exact ih hwalk

/-- A walk that never climbs goes down by the names it is given. -/
theorem walk_of_no_climb {place names next : List String}
    (hnames : ".." ∉ names) (h : tree.walk place names = .ok next) :
    next = place ++ names := by
  induction names generalizing place with
  | nil =>
      rw [List.append_nil]
      exact (Except.ok.inj h).symm
  | cons name rest ih =>
      obtain ⟨hname, hrest⟩ : ¬name = ".." ∧ ".." ∉ rest := by
        simpa [eq_comm] using hnames
      rw [walk] at h
      split at h
      · rw [if_neg hname] at h
        split at h
        · cases h
        · rw [ih hrest h, List.append_assoc, List.singleton_append]
      · cases h
      · cases h

/-- A walk down to something that is there goes through, unless one of the names
is too long. -/
theorem walk_down {place names : List String} (hnames : ".." ∉ names)
    (h : tree.nodeAt? (place ++ names) ≠ none) :
    tree.walk place names =
      if names.any fun name => nameLimit < name.utf8ByteSize then
        .error .nameTooLong
      else .ok (place ++ names) := by
  induction names generalizing place with
  | nil =>
      rw [List.append_nil]
      rfl
  | cons name rest ih =>
      obtain ⟨hname, hrest⟩ : ¬name = ".." ∧ ".." ∉ rest := by
        simpa [eq_comm] using hnames
      obtain ⟨node, hnode⟩ := Option.ne_none_iff_exists'.mp h
      have hdirectory := nodeAt?_of_node_below hnode
      rw [List.append_cons] at h
      rw [walk, hdirectory]
      simp only [if_neg hname, ih hrest h, List.any_cons, Bool.or_eq_true,
        decide_eq_true_eq]
      by_cases hlength : nameLimit < name.utf8ByteSize <;> simp [hlength]

theorem walk_names {place names : List String}
    (hnames : ∀ name ∈ names, Path.IsName name)
    (h : tree.nodeAt? (place ++ names) ≠ none) :
    tree.walk place names = .ok (place ++ names) := by
  rw [walk_down (fun hmem => (hnames _ hmem).ne_dots rfl) h, if_neg]
  rw [List.any_eq_true]
  rintro ⟨name, hname, hlong⟩
  exact Nat.not_lt.mpr (hnames name hname).length (of_decide_eq_true hlong)

/-! ## Paths -/

theorem place_eq_walk {path : Path} (hnull : '\x00' ∉ path.toText.toList)
    (hlength : path.toText.utf8ByteSize ≤ pathLimit) :
    tree.place path = tree.walk (tree.start path) path.components := by
  have hcontains : path.toText.contains '\x00' = false := by simpa using hnull
  rw [place, hcontains, if_neg (Nat.not_lt.mpr hlength)]
  rfl

theorem place_eq_ok_iff {path : Path} {place : List String} :
    tree.place path = .ok place ↔
      '\x00' ∉ path.toText.toList ∧ path.toText.utf8ByteSize ≤ pathLimit ∧
        tree.walk (tree.start path) path.components = .ok place := by
  unfold FileTree.place
  split
  · next h => simpa using fun hnull => absurd (by simpa using h) hnull
  · next hnull =>
      have hnull : '\x00' ∉ path.toText.toList := by simpa using hnull
      split
      · next h => simp [Nat.not_le.mpr h]
      · next hlength => simp [hnull, Nat.not_lt.mp hlength]

section

variable (hstart : other.working = tree.working)

include hstart

theorem start_congr (path : Path) : other.start path = tree.start path := by
  rw [start, start, hstart]

theorem place_congr (h : ∀ place, other.nodeAt? place = tree.nodeAt? place)
    (path : Path) :
    other.place path = tree.place path := by
  rw [place, place, start_congr hstart, walk_congr h]

theorem node_congr (h : ∀ place, other.nodeAt? place = tree.nodeAt? place)
    (path : Path) :
    other.node path = tree.node path := by
  simp only [node, place_congr hstart h, h]

theorem place_of_directories
    (h : ∀ place, tree.nodeAt? place = some .directory →
      other.nodeAt? place = some .directory)
    {path : Path} {found : List String} (hplace : tree.place path = .ok found) :
    other.place path = .ok found := by
  obtain ⟨hnull, hlength, hwalk⟩ := place_eq_ok_iff.mp hplace
  refine place_eq_ok_iff.mpr ⟨hnull, hlength, ?_⟩
  rw [start_congr hstart]
  exact walk_of_directories h hwalk

/-- A path that never climbs leads to the same place in every tree where
something stands there. -/
theorem place_of_no_climb {path : Path} {found : List String}
    (hpath : ".." ∉ path.components) (hplace : other.place path = .ok found)
    (hnode : tree.nodeAt? found ≠ none) (hother : other.nodeAt? found ≠ none) :
    tree.place path = .ok found := by
  obtain ⟨hnull, hlength, hwalk⟩ := place_eq_ok_iff.mp hplace
  rw [start_congr hstart] at hwalk
  obtain rfl := walk_of_no_climb hpath hwalk
  refine place_eq_ok_iff.mpr ⟨hnull, hlength, ?_⟩
  rw [walk_down hpath hother] at hwalk
  rw [walk_down hpath hnode, hwalk]

end

theorem isDirectory_congr {path : Path} (h : other.node path = tree.node path) :
    other.isDirectory path = tree.isDirectory path := by
  rw [isDirectory, isDirectory, node?, node?, h]

theorem isFile_congr {path : Path} (h : other.node path = tree.node path) :
    other.isFile path = tree.isFile path := by
  rw [isFile, isFile, node?, node?, h]

theorem readBytes_congr {path : Path} (h : other.node path = tree.node path) :
    other.readBytes path = tree.readBytes path := by
  rw [readBytes, readBytes, h]

theorem readText_congr {path : Path} (h : other.node path = tree.node path) :
    other.readText path = tree.readText path := by
  rw [readText, readText, readBytes_congr h]

theorem node_of_place {path : Path} {place : List String} {found : FileNode}
    (hplace : tree.place path = .ok place)
    (hnode : tree.nodeAt? place = some found) :
    tree.node path = .ok found := by
  rw [node, hplace]
  simp only [bind, Except.bind, hnode]
  rfl

theorem node_eq_file_iff {path : Path} {content : List UInt8} :
    tree.node path = .ok (.file content) ↔
      ∃ place, tree.place path = .ok place ∧
        tree.nodeAt? place = some (.file content) := by
  refine ⟨fun h => ?_, fun ⟨place, hplace, hnode⟩ => node_of_place hplace hnode⟩
  obtain ⟨place, hplace, hfound⟩ := exists_of_bind_eq_ok h
  refine ⟨place, hplace, ?_⟩
  split at hfound
  · next node hnode => rw [hnode, Except.ok.inj hfound]
  · cases hfound

theorem readText_of_node {path : Path} {content : List UInt8} {text : List Char}
    (hnode : tree.node path = .ok (.file content))
    (htext : (Text.decodeUtf8 content).toOption = some text) :
    tree.readText path = .ok (Text.unifyLineEnds text) := by
  rw [readText, readBytes, hnode]
  simp only [bind, Except.bind]
  rw [toOption_eq_some_iff.mp htext]
  rfl

theorem isDirectory_of_place {path : Path} {place : List String}
    (h : tree.place path = .ok place) :
    tree.isDirectory path =
      .ok (decide (tree.nodeAt? place = some .directory)) := by
  unfold isDirectory node? node
  rw [h]
  simp only [bind, Except.bind]
  cases tree.nodeAt? place with
  | none => rfl
  | some node => simp [pure, Except.pure, Except.map]

theorem isFile_eq_ok_true_iff {path : Path} :
    tree.isFile path = .ok true ↔
      ∃ place, tree.place path = .ok place ∧ tree.HasFile place := by
  unfold isFile node? node
  cases tree.place path with
  | error obstacle => cases obstacle <;> simp [bind, Except.bind, Except.map]
  | ok place =>
      simp only [bind, Except.bind, Except.ok.injEq, exists_eq_left', HasFile]
      cases tree.nodeAt? place with
      | none => simp [throw, throwThe, MonadExceptOf.throw, Except.map]
      | some node => cases node <;> simp [pure, Except.pure, Except.map]

/-- Only about a path that is too long it cannot be said whether it leads to a
file. -/
theorem isFile_eq_error_iff {path : Path} {fault : FileFault} :
    tree.isFile path = .error fault ↔
      tree.place path = .error .nameTooLong ∧
        fault = .nameTooLong path.toText := by
  unfold isFile node? node
  cases tree.place path with
  | error obstacle =>
      cases obstacle <;> simp [bind, Except.bind, Except.map, eq_comm]
  | ok place =>
      cases hnode : tree.nodeAt? place <;>
        simp [bind, Except.bind, hnode, throw, throwThe, MonadExceptOf.throw,
          Except.map, pure, Except.pure]

theorem isFile_of_place {path : Path} {place : List String}
    (hplace : tree.place path = .ok place) :
    tree.isFile path = .ok (decide (tree.HasFile place)) := by
  have hfile : tree.isFile path = .ok true ↔ tree.HasFile place := by
    simp [isFile_eq_ok_true_iff, hplace]
  cases h : tree.isFile path with
  | error fault =>
      have hlong := (isFile_eq_error_iff.mp h).1
      cases hplace.symm.trans hlong
  | ok isFile =>
      rw [h] at hfile
      cases isFile <;> simpa using hfile

/-! ## Below a directory -/

theorem start_along (directory : Path) (names : List String) :
    tree.start (directory.along names) = tree.start directory := rfl

theorem place_of_along {directory : Path} {names found : List String}
    (h : tree.place (directory.along names) = .ok found) :
    ∃ below, tree.place directory = .ok below ∧ tree.walk below names =
      .ok found := by
  obtain ⟨hnull, hlength, hwalk⟩ := place_eq_ok_iff.mp h
  rw [start_along, Path.along, walk_append] at hwalk
  obtain ⟨below, hbelow, hdown⟩ := exists_of_bind_eq_ok hwalk
  refine ⟨below, place_eq_ok_iff.mpr ⟨?_, ?_, hbelow⟩, hdown⟩
  · rw [Path.mem_toText_iff (by decide) (by decide)] at hnull ⊢
    rintro ⟨name, hname, hmem⟩
    exact hnull ⟨name, List.mem_append_left _ hname, hmem⟩
  · exact Nat.le_trans (Path.utf8ByteSize_toText_le directory names)
      (Nat.max_le.mpr ⟨by decide, hlength⟩)

section

variable {directory : Path} {below names : List String}
  (hplace : tree.place directory = .ok below)

include hplace

/-- A path that goes on without climbing leads down from where it was. -/
theorem place_along_eq {found : List String} (hnames : ".." ∉ names)
    (h : tree.place (directory.along names) = .ok found) :
    found = below ++ names := by
  obtain ⟨-, -, hwalk⟩ := place_eq_ok_iff.mp hplace
  obtain ⟨-, -, halong⟩ := place_eq_ok_iff.mp h
  rw [start_along] at halong
  change tree.walk _ (directory.components ++ names) = _ at halong
  rw [walk_append, hwalk] at halong
  exact walk_of_no_climb hnames halong

/-- The path on which something stands below a directory leads down to it,
unless it is too long. -/
theorem place_along (hnames : ∀ name ∈ names, Path.IsName name)
    (h : tree.nodeAt? (below ++ names) ≠ none) :
    tree.place (directory.along names) =
      if pathLimit < (directory.along names).toText.utf8ByteSize then
        .error .nameTooLong
      else .ok (below ++ names) := by
  obtain ⟨hnull, -, hwalk⟩ := place_eq_ok_iff.mp hplace
  rw [Path.mem_toText_iff (by decide) (by decide)] at hnull
  have halong : '\x00' ∉ (directory.along names).toText.toList := by
    rw [Path.mem_toText_iff (by decide) (by decide)]
    rintro ⟨name, hname, hmem⟩
    obtain hname | hname := List.mem_append.mp hname
    · exact hnull ⟨name, hname, hmem⟩
    · exact (hnames name hname).no_null hmem
  have hcontains : (directory.along names).toText.contains '\x00' = false := by
    simpa using halong
  rw [place, hcontains, start_along]
  change (if _ then _ else tree.walk _ (directory.components ++ names)) = _
  rw [walk_append, hwalk]
  simp only [bind, Except.bind, walk_names hnames h]

end

/-- The path on which a file stands below a directory, and its place.  Both go
on from the directory by the names on the way down. -/
def IsFileBelow (tree : FileTree) (directory path : Path)
    (place : List String) : Prop :=
  ∃ below names, tree.place directory = .ok below ∧
    tree.nodeAt? below = some .directory ∧ path = directory.along names ∧
    place = below ++ names ∧ tree.HasFile place

theorem isFileBelow_congr (hstart : other.working = tree.working)
    (h : ∀ place, other.nodeAt? place = tree.nodeAt? place)
    (directory path : Path) (place : List String) :
    other.IsFileBelow directory path place ↔
      tree.IsFileBelow directory path place := by
  simp only [IsFileBelow, HasFile, place_congr hstart h, h]

section

variable {directory path otherPath : Path} {place otherPlace : List String}

theorem IsFileBelow.path_eq_iff (h : tree.IsFileBelow directory path place)
    (hother : tree.IsFileBelow directory otherPath otherPlace) :
    otherPath = path ↔ otherPlace = place := by
  obtain ⟨below, names, hplace, -, rfl, rfl, -⟩ := h
  obtain ⟨otherBelow, otherNames, hotherPlace, -, rfl, rfl, -⟩ := hother
  obtain rfl : below = otherBelow :=
    Except.ok.inj (hplace.symm.trans hotherPlace)
  simp [Path.along]

theorem IsFileBelow.names_ne_nil {below names : List String}
    (hnode : tree.nodeAt? below = some .directory)
    (hfile : tree.HasFile (below ++ names)) :
    names ≠ [] := by
  rintro rfl
  obtain ⟨content, hcontent⟩ := hfile
  rw [List.append_nil, hnode] at hcontent
  cases hcontent

/-- A file below a directory is one on its path, unless that is too long. -/
theorem IsFileBelow.isFile (htree : tree.WellFormed)
    (h : tree.IsFileBelow directory path place)
    (hlength : path.toText.utf8ByteSize ≤ pathLimit) :
    tree.isFile path = .ok true := by
  obtain ⟨below, names, hplace, -, rfl, rfl, hfile⟩ := h
  have hnames : ∀ name ∈ names, Path.IsName name := fun name hname =>
    htree.isName _ hfile.mem_keys name (List.mem_append_right below hname)
  obtain ⟨content, hcontent⟩ := id hfile
  refine isFile_eq_ok_true_iff.mpr ⟨_, ?_, hfile⟩
  rw [place_along hplace hnames (by simp [hcontent]),
    if_neg (Nat.not_lt.mpr hlength)]

end

end FileTree

end TraitIndex
