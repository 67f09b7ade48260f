import Mathlib.Data.List.Basic
import TraitIndex.Implementor.TraitPath
import TraitIndex.Proofs.Files.Paths

/-!
# The trait of a place

A script is about the trait that the way from the directory `implementors` to
its file names.  The way starts at the last directory of that name, so the
directories above it make no difference.
-/

namespace TraitIndex

namespace Path

/-! ## Going on from a directory -/

variable (path : Path) {names : List String}

theorem along_relative (names : List String) :
    path.join ⟨.relative, names⟩ = path.along names := rfl

theorem parts_along (names : List String) :
    (path.along names).parts = path.parts ++ names := by
  obtain ⟨root, components⟩ := path
  cases root <;> rfl

theorem name_along (hne : names ≠ []) :
    (path.along names).name = names.getLast hne := by
  rw [name, along, List.getLast?_append_of_ne_nil _ hne,
    List.getLast?_eq_some_getLast hne]
  rfl

theorem ofChars_of_ne {c : Char} (h : c ≠ '/') (text : List Char) :
    PathRoot.ofChars (c :: text) = .relative := by
  unfold PathRoot.ofChars
  split <;> simp_all

theorem ofChars_joined {name : String} (hne : name ≠ "")
    (hslash : '/' ∉ name.toList) (rest : List String) :
    PathRoot.ofChars ("/".intercalate (name :: rest)).toList = .relative := by
  obtain ⟨c, text, hname⟩ :=
    List.exists_cons_of_ne_nil (mt String.toList_eq_nil_iff.mp hne)
  have hc : c ≠ '/' := by
    rintro rfl
    exact hslash (hname ▸ List.mem_cons_self)
  obtain ⟨more, hmore⟩ : ∃ more, ("/".intercalate (name :: rest)).toList =
    name.toList ++ more := by
    rw [String.toList_intercalate]
    cases rest with
    | nil => exact ⟨[], by simp⟩
    | cons next rest =>
        rw [List.map_cons, List.map_cons, List.intercalate_cons_cons,
          List.append_assoc]
        exact ⟨_, rfl⟩
  rw [hmore, hname]
  exact ofChars_of_ne hc _

/-- The path of a text that names components, all of which count. -/
theorem ofText_joined (hne : names ≠ [])
    (hnames : ∀ name ∈ names, name ≠ "" ∧ name ≠ "." ∧ '/' ∉ name.toList) :
    ofText ("/".intercalate names) = ⟨.relative, names⟩ := by
  have hslash : ∀ piece ∈ names.map String.toList, '/' ∉ piece :=
    List.forall_mem_map.mpr fun name hname => (hnames name hname).2.2
  have hsplit : Text.splitAt '/' ("/".intercalate names).toList =
      names.map String.toList := by
    rw [String.toList_intercalate]
    exact Text.splitAt_intercalate (by simpa using hne) hslash
  have hcomponents : componentsOf ("/".intercalate names).toList = names := by
    rw [componentsOf, hsplit, List.map_map]
    have hid : names.map (String.ofList ∘ String.toList) = names := by
      simp [Function.comp_def]
    rw [hid, List.filter_eq_self]
    intro name hname
    simp [(hnames name hname).1, (hnames name hname).2.1]
  obtain ⟨name, rest, rfl⟩ := List.exists_cons_of_ne_nil hne
  obtain ⟨hempty, -, hname⟩ := hnames name List.mem_cons_self
  rw [ofText, hcomponents, ofChars_joined hempty hname]

/-! ## Names of files -/

theorem splitName_dot {before extension : List Char} (hbefore : before ≠ [])
    (hextension : extension ≠ []) (hdot : '.' ∉ extension) :
    splitName (String.ofList (before ++ '.' :: extension)) =
      (String.ofList before, String.ofList ('.' :: extension)) := by
  have hbackwards : (before ++ '.' :: extension).reverse =
      extension.reverse ++ '.' :: before.reverse := by simp
  have htaken : (extension.reverse ++ '.' :: before.reverse).takeWhile
      (· != '.') = extension.reverse := by
    rw [List.takeWhile_append_of_pos]
    · simp
    · intro c hc
      rw [List.mem_reverse] at hc
      have hne : c ≠ '.' := fun heq => hdot (heq ▸ hc)
      simpa using hne
  have hdropped : (extension.reverse ++ '.' :: before.reverse).drop
      (extension.reverse.length + 1) = before.reverse := by
    rw [← List.drop_drop, List.drop_left, List.drop_one, List.tail_cons]
  simp only [splitName, String.toList_ofList, hbackwards, htaken, hdropped]
  simp [hbefore, hextension]

end Path

/-! ## Directories after the last of a name -/

theorem componentsAfterLast_of_mem {component : String} {rest : List String}
    (h : component ∈ rest) (before : List String) :
    componentsAfterLast component (before ++ rest) =
      componentsAfterLast component rest := by
  induction before with
  | nil => rfl
  | cons part before ih =>
      rw [List.cons_append, componentsAfterLast, if_pos (by simp [h]), ih]

theorem componentsAfterLast_cons {component : String} {after : List String}
    (h : component ∉ after) :
    componentsAfterLast component (component :: after) = after := by
  rw [componentsAfterLast, if_neg (by simpa using h), if_pos rfl]

/-! ## Traits -/

theorem traitFileName_trait {path : Path} {name : String}
    (h : path.name = "trait." ++ name ++ ".js") :
    traitFileName path = name := by
  have hname : path.name =
      String.ofList (("trait.".toList ++ name.toList) ++ '.' ::
        "js".toList) := by
    rw [h, ← String.toList_inj]
    simp
  have hstem : path.stem = String.ofList ("trait.".toList ++ name.toList) := by
    rw [Path.stem, hname, Path.splitName_dot (by simp) (by decide) (by decide)]
  have hchars : path.stem.toList = "trait.".toList ++ name.toList := by
    rw [hstem, String.toList_ofList]
  rw [traitFileName, hchars, Text.stripInitial?_append]
  exact String.ofList_toList

theorem traitFileName_along (root : Path) {names : List String}
    (hne : names ≠ []) :
    traitFileName (root.along names) = traitFileName ⟨.relative, names⟩ := by
  have hname : (root.along names).name = (Path.mk .relative names).name := by
    rw [Path.name_along root hne]
    exact (Path.name_along ⟨.relative, []⟩ hne).symm
  rw [traitFileName, traitFileName, Path.stem, Path.stem, hname]

/-- The directory that the way to a trait starts at may have any directories
above it. -/
theorem traitOfPath_along (root : Path) (modules : List String)
    (file : String) :
    traitOfPath (root.along (implementorsDirectory :: modules ++ [file])) =
      "::".intercalate
        (componentsAfterLast implementorsDirectory
          (implementorsDirectory :: modules) ++
          [traitFileName ⟨.relative, [file]⟩]) := by
  have hname : traitFileName
      (root.along (implementorsDirectory :: modules ++ [file])) =
      traitFileName ⟨.relative, [file]⟩ := by
    rw [Path.along_append, traitFileName_along _ (List.cons_ne_nil file [])]
  rw [traitOfPath, hname, Path.parts_along, ← List.append_assoc,
    List.dropLast_concat, componentsAfterLast_of_mem List.mem_cons_self]

theorem intercalate_append_ne {before names : List String}
    (hbefore : before ≠ []) (hnames : names ≠ []) :
    "::".intercalate names ≠ "::".intercalate (before ++ names) := by
  intro heq
  rw [String.intercalate_append_of_ne_nil hbefore hnames] at heq
  have hlength := congrArg String.length heq
  rw [String.length_append, String.length_append] at hlength
  have hseparator : "::".length = 2 := rfl
  omega

theorem exists_last_occurrence {component : String} {names : List String}
    (h : component ∈ names) :
    ∃ before after, names = before ++ component :: after ∧
      component ∉ after := by
  obtain ⟨first, rest, hreverse, hfirst⟩ :=
    List.eq_append_cons_of_mem (List.mem_reverse.mpr h)
  refine ⟨rest.reverse, first.reverse, ?_, by rwa [List.mem_reverse]⟩
  rw [← List.reverse_reverse names, hreverse]
  simp

/-- The trait is the whole way from a directory `implementors` exactly when no
directory on it has that name again. -/
theorem traitOfPath_along_eq_iff (root : Path) (modules : List String)
    {file name : String} (hname : traitFileName ⟨.relative, [file]⟩ = name) :
    traitOfPath (root.along (implementorsDirectory :: modules ++ [file])) =
        "::".intercalate (modules ++ [name]) ↔
          implementorsDirectory ∉ modules := by
  rw [traitOfPath_along, hname]
  constructor
  · intro heq hmem
    obtain ⟨before, after, rfl, hafter⟩ := exists_last_occurrence hmem
    have hway : before ++ implementorsDirectory :: after ++ [name] =
        (before ++ [implementorsDirectory]) ++ (after ++ [name]) := by simp
    rw [← List.cons_append, componentsAfterLast_of_mem List.mem_cons_self,
      componentsAfterLast_cons hafter, hway] at heq
    exact intercalate_append_ne (by simp) (by simp) heq
  · intro hmem
    rw [componentsAfterLast_cons hmem]

end TraitIndex
