import TraitIndex.Files.FileTree

/-!
# The order and the text of paths

Paths are ordered name by name, which is the lexicographic order of their parts
and not the order of their texts.  Still the text of a path tells it from every
other one, as long as no name in it is empty or holds a slash.
-/

namespace TraitIndex

namespace Path

/-! ## Order -/

theorem namesLe_iff {a b : List String} : namesLe a b = true ↔ ¬b < a := by
  induction a generalizing b with
  | nil => exact iff_of_true rfl (List.not_lt_nil b)
  | cons name rest ih =>
      cases b with
      | nil =>
          exact iff_of_false Bool.false_ne_true
            (not_not_intro (List.nil_lt_cons name rest))
      | cons other others =>
          rw [namesLe, Bool.or_eq_true, decide_eq_true_eq, Bool.and_eq_true,
            beq_iff_eq, ih, List.cons_lt_cons_iff]
          constructor
          · rintro (hlt | ⟨rfl, hrest⟩)
            · rintro (hgt | ⟨rfl, -⟩)
              · exact String.lt_asymm hlt hgt
              · exact String.lt_irrefl _ hlt
            · rintro (hgt | ⟨-, hgt⟩)
              · exact String.lt_irrefl _ hgt
              · exact hrest hgt
          · intro h
            by_cases hlt : name < other
            · exact .inl hlt
            · have heq : name = other :=
                String.le_antisymm (fun hgt => h (.inl hgt)) hlt
              exact .inr ⟨heq, fun hgt => h (.inr ⟨heq.symm, hgt⟩)⟩

theorem le_iff {a b : Path} : a.le b = true ↔ ¬b.parts < a.parts :=
  namesLe_iff

theorem le_trans {a b c : Path} (hab : a.le b = true) (hbc : b.le c = true) :
    a.le c = true :=
  le_iff.mpr (List.le_trans (le_iff.mp hab) (le_iff.mp hbc))

theorem le_total (a b : Path) : (a.le b || b.le a) = true := by
  rw [Bool.or_eq_true, le_iff, le_iff]
  exact List.le_total a.parts b.parts

/-- Paths with the same root are told apart by their parts. -/
theorem eq_of_parts {a b : Path} (hroot : a.root = b.root)
    (h : a.parts = b.parts) : a = b := by
  obtain ⟨root, components⟩ := a
  obtain ⟨_, others⟩ := b
  obtain rfl := hroot
  cases root with
  | relative => exact congrArg _ h
  | slash | doubleSlash => exact congrArg _ (List.cons.inj h).2

end Path

/-! ## Text -/

namespace Text

variable {separator : Char} {piece : List Char}

theorem splitAt_append (h : separator ∉ piece) (rest : List Char) :
    splitAt separator (piece ++ separator :: rest) =
      piece :: splitAt separator rest := by
  induction piece with
  | nil => simp [splitAt]
  | cons c piece ih =>
      obtain ⟨hc, hpiece⟩ : ¬separator = c ∧ separator ∉ piece := by
        simpa using h
      rw [List.cons_append, splitAt, if_neg (Ne.symm hc), ih hpiece]

theorem splitAt_of_not_mem (h : separator ∉ piece) :
    splitAt separator piece = [piece] := by
  induction piece with
  | nil => rfl
  | cons c piece ih =>
      obtain ⟨hc, hpiece⟩ : ¬separator = c ∧ separator ∉ piece := by
        simpa using h
      rw [splitAt, if_neg (Ne.symm hc), ih hpiece]

/-- Pieces that do not hold the separator can be told from the text they make
up. -/
theorem splitAt_intercalate {pieces : List (List Char)} (hne : pieces ≠ [])
    (h : ∀ piece ∈ pieces, separator ∉ piece) :
    splitAt separator ([separator].intercalate pieces) = pieces := by
  induction pieces with
  | nil => exact absurd rfl hne
  | cons piece rest ih =>
      obtain ⟨hpiece, hrest⟩ := List.forall_mem_cons.mp h
      cases rest with
      | nil => rw [List.intercalate_singleton, splitAt_of_not_mem hpiece]
      | cons next rest =>
          rw [List.intercalate_cons_cons, List.append_assoc,
            List.singleton_append, splitAt_append hpiece,
            ih (List.cons_ne_nil next rest) hrest]

end Text

namespace Path

/-- What a file or a directory can be called. -/
structure IsName (name : String) : Prop where
  ne_empty : name ≠ ""
  ne_dot : name ≠ "."
  ne_dots : name ≠ ".."
  no_slash : '/' ∉ name.toList
  no_null : '\x00' ∉ name.toList
  length : name.utf8ByteSize ≤ FileTree.nameLimit

theorem isName_iff {name : String} : IsName name ↔
    name ≠ "" ∧ name ≠ "." ∧ name ≠ ".." ∧ '/' ∉ name.toList ∧
      '\x00' ∉ name.toList ∧ name.utf8ByteSize ≤ FileTree.nameLimit :=
  ⟨fun ⟨h, h₁, h₂, h₃, h₄, h₅⟩ => ⟨h, h₁, h₂, h₃, h₄, h₅⟩,
    fun ⟨h, h₁, h₂, h₃, h₄, h₅⟩ => ⟨h, h₁, h₂, h₃, h₄, h₅⟩⟩

instance (name : String) : Decidable (IsName name) :=
  decidable_of_iff _ isName_iff.symm

theorem splitAt_joined {names : List String} (hne : names ≠ [])
    (hnames : ∀ name ∈ names, '/' ∉ name.toList) :
    Text.splitAt '/' ("/".intercalate names).toList =
      names.map String.toList := by
  rw [String.toList_intercalate]
  apply Text.splitAt_intercalate (by simpa using hne)
  exact List.forall_mem_map.mpr hnames

/-- The text of a path that does not hang from a root, if it leads anywhere. -/
theorem toText_relative {names : List String} (hne : names ≠ []) :
    (Path.mk .relative names).toText = "/".intercalate names := by
  have hisEmpty : names.isEmpty = false := by simpa using hne
  simp only [toText, written, PathRoot.toText, hisEmpty, Bool.and_false,
    Bool.false_eq_true, if_false, String.empty_append]

theorem toText_inj {names others : List String} (hne : names ≠ [])
    (hother : others ≠ []) (hnames : ∀ name ∈ names, IsName name)
    (hothers : ∀ name ∈ others, IsName name)
    (h : (Path.mk .relative names).toText = (Path.mk .relative others).toText) :
    names = others := by
  rw [toText_relative hne, toText_relative hother] at h
  have hsplit := congrArg (fun text => Text.splitAt '/' text.toList) h
  simp only [splitAt_joined hne fun name hname => (hnames name hname).no_slash,
    splitAt_joined hother fun name hname => (hothers name hname).no_slash]
      at hsplit
  exact (List.map_inj_right fun _ _ => String.toList_inj.mp).mp hsplit

theorem toText_ne_empty {names : List String} (hne : names ≠ [])
    (hnames : ∀ name ∈ names, IsName name) :
    (Path.mk .relative names).toText ≠ "" := by
  intro h
  have hsplit :=
    splitAt_joined hne fun name hname => (hnames name hname).no_slash
  rw [← toText_relative hne, h] at hsplit
  cases names with
  | nil => exact hne rfl
  | cons name rest =>
      have hempty : [] = name.toList := (List.cons.inj hsplit).1
      exact (hnames name List.mem_cons_self).ne_empty
        (String.toList_inj.mp hempty.symm)

/-- A character that ends no name stands in the text of a path if it stands in
one of its components. -/
theorem mem_toText_iff {c : Char} (hslash : c ≠ '/') (hdot : c ≠ '.')
    (path : Path) :
    c ∈ path.toText.toList ↔ ∃ name ∈ path.components, c ∈ name.toList := by
  have hjoined : c ∈ ("/".intercalate path.components).toList ↔
      ∃ name ∈ path.components, c ∈ name.toList := by
    rw [String.toList_intercalate]
    induction path.components with
    | nil => simp
    | cons name rest ih =>
        cases rest with
        | nil => simp
        | cons next rest =>
            rw [List.map_cons, List.map_cons, List.intercalate_cons_cons,
              List.append_assoc, List.mem_append, List.mem_append, ←
                List.map_cons, ih]
            simp [hslash]
  have hroot : c ∉ path.root.toText.toList := by
    cases path.root <;> simp [PathRoot.toText, hslash]
  unfold toText
  split
  · next h =>
      obtain ⟨-, hempty⟩ := Bool.and_eq_true_iff.mp h
      rw [List.isEmpty_iff.mp hempty]
      simp [hdot]
  · rw [written, String.toList_append, List.mem_append,
      or_iff_right hroot, hjoined]

@[simp] theorem along_nil (path : Path) : path.along [] = path :=
  congrArg (mk path.root) (List.append_nil _)

theorem along_append (path : Path) (names more : List String) :
    path.along (names ++ more) = (path.along names).along more :=
  congrArg (mk path.root) (List.append_assoc ..).symm

theorem child_along (path : Path) (name : String) (names : List String) :
    (path.child name).along names = path.along (name :: names) :=
  (along_append path [name] names).symm

/-- The text of a path is not longer than that of a path that goes on from it,
but for paths without components. -/
theorem utf8ByteSize_toText_le (path : Path) (names : List String) :
    path.toText.utf8ByteSize ≤
      max 2 (path.along names).toText.utf8ByteSize := by
  obtain ⟨root, components⟩ := path
  cases components with
  | nil =>
      have hshort : (Path.mk root []).toText.utf8ByteSize ≤ 2 := by
        cases root <;> decide
      exact Nat.le_trans hshort (Nat.le_max_left _ _)
  | cons first rest =>
      have hlength : ("/".intercalate (first :: rest)).utf8ByteSize ≤
          ("/".intercalate (first :: rest ++ names)).utf8ByteSize := by
        cases names with
        | nil => exact Nat.le_of_eq (by rw [List.append_nil])
        | cons name more =>
            rw [String.intercalate_append_of_ne_nil
              (List.cons_ne_nil first rest)
              (List.cons_ne_nil name more), String.append_assoc,
                String.utf8ByteSize_append]
            exact Nat.le_add_right _ _
      have hwritten (others : List String) :
          (Path.mk root (first :: others)).toText =
            root.toText ++ "/".intercalate (first :: others) := by
        simp [toText, written]
      rw [along, List.cons_append, hwritten, hwritten,
        String.utf8ByteSize_append, String.utf8ByteSize_append]
      exact Nat.le_trans (Nat.add_le_add_left hlength _) (Nat.le_max_right _ _)

end Path

end TraitIndex
