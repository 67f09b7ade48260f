import Mathlib.Data.List.Basic
import TraitIndex.Bundle.Load
import TraitIndex.Proofs.Bundle.Scanning

/-!
# What can be wrong with a file

Reading a file fails because the file cannot be read, because its text is not in
its format, because of a value in it that cannot be used as what it should be,
or because it nests too deep.  Nothing else goes wrong, least of all the way
from the root of the bundle to the file.
-/

namespace TraitIndex

/-- A fault in a file or in what it holds. -/
def Fault.IsOfFile (fault : Fault) : Prop :=
  (∃ cause, fault = .file cause) ∨ (∃ cause, fault = .format cause) ∨
    (∃ cause, fault = .value cause) ∨ fault = .recursion

def FailsByFile {α : Type} (result : Except Fault α) : Prop :=
  ∀ fault, result = .error fault → fault.IsOfFile

namespace FailsByFile

variable {α β : Type}

theorem ok (value : α) : FailsByFile (.ok value) := by
  intro fault h
  cases h

theorem file (cause : FileFault) :
    FailsByFile (.error (.file cause) : Except Fault α) := by
  intro fault h
  obtain rfl := Except.error.inj h
  exact .inl ⟨cause, rfl⟩

theorem format (cause : FormatFault) :
    FailsByFile (.error (.format cause) : Except Fault α) := by
  intro fault h
  obtain rfl := Except.error.inj h
  exact .inr (.inl ⟨cause, rfl⟩)

theorem value (cause : ValueFault) :
    FailsByFile (.error (.value cause) : Except Fault α) := by
  intro fault h
  obtain rfl := Except.error.inj h
  exact .inr (.inr (.inl ⟨cause, rfl⟩))

theorem recursion : FailsByFile (.error .recursion : Except Fault α) := by
  intro fault h
  obtain rfl := Except.error.inj h
  exact .inr (.inr (.inr rfl))

theorem lift (result : Except ValueFault α) :
    FailsByFile (liftValue result) := by
  cases result with
  | ok value => exact ok value
  | error cause => exact value cause

theorem bind {first : Except Fault α} {next : α → Except Fault β}
    (hfirst : FailsByFile first) (hnext : ∀ value, FailsByFile (next value)) :
    FailsByFile (first >>= next) := by
  cases first with
  | ok value => exact hnext value
  | error fault =>
      intro other hother
      exact hfirst other (congrArg Except.error (Except.error.inj hother))

theorem mapM {step : α → Except Fault β}
    (hstep : ∀ item, FailsByFile (step item)) (items : List α) :
    FailsByFile (items.mapM step) := by
  induction items with
  | nil => exact ok []
  | cons item items ih =>
      rw [List.mapM_cons]
      exact (hstep item).bind fun _ => ih.bind fun _ => ok _

end FailsByFile

/-! ## Texts -/

theorem Script.failsByFile_decodeLiteral (source : String)
    (literal : List Char) :
    FailsByFile (decodeLiteral source literal) := by
  unfold decodeLiteral
  split
  · exact .ok _
  · exact .format _
  · exact .value _

theorem Script.failsByFile_read (text traitName source : String) :
    FailsByFile (read text traitName source) := by
  have hentry (assignment : Assignment) :
      FailsByFile (entryOfAssignment traitName source assignment) :=
    (failsByFile_decodeLiteral _ _).bind fun _ =>
    (failsByFile_decodeLiteral _ _).bind fun _ =>
      (FailsByFile.lift _).bind fun _ =>
      (FailsByFile.mapM (fun _ => .lift _) _).bind fun _ => .ok _
  unfold read
  split
  · exact .format _
  · exact (FailsByFile.mapM hentry _).bind fun _ => .ok _

theorem Structured.failsByFile_decode (text source format : String) :
    FailsByFile (decode text source format) := by
  unfold decode
  split
  · split
    · exact .ok _
    · exact .format _
    · exact .value _
  · split
    · exact .ok _
    · exact .format _
    · exact .value _
    · exact .file _
    · exact .recursion

theorem Structured.failsByFile_read (text source format : String) :
    FailsByFile (read text source format) := by
  apply (failsByFile_decode text source format).bind
  intro document
  unfold ofValue
  split
  · exact (FailsByFile.lift _).bind fun _ => .ok _
  · exact .format _

theorem Sidebar.failsByFile_read (text crate : String) :
    FailsByFile (read text crate) := by
  have hkind (field : Value × Value) : FailsByFile (do
      let items ← liftValue (itemsOfValue field.2)
      return (field.1.toText, items)) := (FailsByFile.lift _).bind
        fun _ => .ok _
  unfold read
  split
  · exact .format _
  · split
    · exact .format _
    · exact .value _
    · exact (FailsByFile.mapM hkind _).bind fun _ => .ok _
    · exact .format _

/-! ## Files -/

namespace Bundle

section

variable [Host] (tree : FileTree)

theorem failsByFile_readText (path : Path) (purpose : Purpose) :
    FailsByFile (readText tree path purpose) := by
  unfold readText
  split
  · exact .file _
  · split
    · exact .recursion
    · exact .ok _

theorem failsByFile_readSidebar (path : Path) :
    FailsByFile (readSidebar tree path) :=
  (failsByFile_readText tree path .sidebar).bind fun _ =>
    Sidebar.failsByFile_read _ _

end

/-- The path of a file found below a directory. -/
def IsBelow (root path : Path) : Prop :=
  root.root = path.root ∧ root.components.isPrefixOf path.components = true

instance {root path : Path} : Decidable (IsBelow root path) :=
  inferInstanceAs (Decidable (_ ∧ _))

def nameBelow (root path : Path) : String :=
  Path.toText ⟨.relative, path.components.drop root.components.length⟩

theorem fragmentName_of_isBelow {root path : Path} (h : IsBelow root path) :
    fragmentName path (some root) = .ok (nameBelow root path) := by
  have hbelow : path.relativeTo root =
      .ok ⟨.relative, path.components.drop root.components.length⟩ := by
    simp [Path.relativeTo, h.1, h.2]
  rw [fragmentName, hbelow]
  rfl

def purposeOf (path : Path) : Purpose :=
  if isStructured path then .structured (formatOf path) else .script

def fragmentOfText (path : Path) (name text : String) : Except Fault Fragment :=
  if isStructured path then Structured.read text name (formatOf path)
  else Script.read text (traitOfPath path) name

/-- A fragment file is read in the format that its path tells. -/
theorem readFragment_eq [Host] {root path : Path} (h : IsBelow root path)
    (tree : FileTree) :
    readFragment tree path root =
      readText tree path (purposeOf path) >>= fragmentOfText path
        (nameBelow root path) := by
  have hname := fragmentName_of_isBelow h
  unfold readFragment
  split
  · next hstructured =>
      have hformat : fragmentOfText path (nameBelow root path) =
          fun text => Structured.read text (nameBelow root path)
            (formatOf path) :=
        funext fun _ => if_pos hstructured
      rw [readStructured, hname, hstructured, hformat, purposeOf,
        if_pos hstructured]
      rfl
  · next hstructured =>
      have hformat : fragmentOfText path (nameBelow root path) =
          fun text => Script.read text (traitOfPath path)
            (nameBelow root path) :=
        funext fun _ => if_neg hstructured
      rw [readScript, hname, hformat, purposeOf, if_neg hstructured]
      rfl

theorem failsByFile_fragmentOfText (path : Path) (name text : String) :
    FailsByFile (fragmentOfText path name text) := by
  unfold fragmentOfText
  split
  · exact Structured.failsByFile_read _ _ _
  · exact Script.failsByFile_read _ _ _

theorem failsByFile_readFragment [Host] (tree : FileTree) {root path : Path}
    (h : IsBelow root path) : FailsByFile (readFragment tree path root) := by
  rw [readFragment_eq h]
  exact (failsByFile_readText tree path _).bind
    (failsByFile_fragmentOfText path _)

theorem isBelow_of_mem_fragmentFiles {tree : FileTree} {root path : Path}
    {files : List Path} (hfiles : fragmentFiles tree root = .ok files)
    (hpath : path ∈ files) : IsBelow root path := by
  obtain ⟨found, hfound, rfl⟩ := exists_of_fragmentFiles hfiles
  rw [(inOrder_perm _).mem_iff, List.mem_filter] at hpath
  obtain ⟨below, names, -, -, -, rfl, -⟩ :=
    (mem_filesAlong_iff hfound).mp hpath.1
  refine ⟨rfl, List.isPrefixOf_iff_prefix.mpr ?_⟩
  exact (List.prefix_append _ _).trans (List.prefix_append _ _)

/-! ## Readings -/

variable [Host]

theorem failsByFile_of_fragmentReadings {tree : FileTree} {root : Path}
    {readings : List (Reading Fragment)}
    (hreadings : fragmentReadings tree root = .ok readings) :
    ∀ reading ∈ readings, FailsByFile reading.result := by
  obtain ⟨files, hfiles, hread⟩ := exists_of_bind_eq_ok hreadings
  obtain rfl := Except.ok.inj hread
  intro reading hreading
  obtain ⟨path, hpath, rfl⟩ := List.mem_map.mp hreading
  exact failsByFile_readFragment tree
    (isBelow_of_mem_fragmentFiles hfiles hpath)

theorem failsByFile_of_sidebarReadings {tree : FileTree} {root : Path}
    {readings : List (Reading SidebarIndex)}
    (hreadings : sidebarReadings tree root = .ok readings) :
    ∀ reading ∈ readings, FailsByFile reading.result := by
  obtain ⟨files, -, hread⟩ := exists_of_bind_eq_ok hreadings
  obtain rfl := Except.ok.inj hread
  intro reading hreading
  obtain ⟨path, -, rfl⟩ := List.mem_map.mp hreading
  exact failsByFile_readSidebar tree path

end Bundle

end TraitIndex
