import TraitIndex.Command.Run
import TraitIndex.Proofs.Script.Encodable

/-!
# How the program ends

What the console does not refuse is shown, and a refusal ends the program with
status 1.  A text that can be encoded is printed as it is.
-/

namespace TraitIndex

theorem Host.isExhausted_ample (tree : FileTree) (path : Path)
    (purpose : Purpose) :
    isExhausted tree path purpose = false := by
  unfold isExhausted
  split <;> rfl

namespace Exit

open Console

section

variable [Host] {files : FileTree} {status : Nat} {display : Display}
  {log : Log}

theorem shown_of_no_complaint (h : Host.complaint? display = none) :
    shown files status [display] log =
      ⟨status, [display], "", log, files, none⟩ := by
  simp only [shown, Host.show?, h]

theorem shown_of_complaint {message : String}
    (h : Host.complaint? display = some message) :
    shown files status [display] log =
      ⟨1, [], "", log, files, some (.console message)⟩ := by
  simp only [shown, Host.show?, h]

/-- Only the displays of a program that fails depend on the console. -/
theorem shown_failed (files : FileTree) (displays : List Display) (log : Log) :
    (shown files 1 displays log).status = 1 ∧
        (shown files 1 displays log).output = "" ∧
      (shown files 1 displays log).files = files ∧
        (shown files 1 displays log).log = log := by
  unfold shown
  obtain ⟨shown, fault⟩ := Host.show? displays
  cases fault <;> exact ⟨rfl, rfl, rfl, rfl⟩

end

theorem isEncodable_line {text : String} (h : Text.isEncodable text = true) :
    Text.isEncodable (text ++ "\n") = true := by
  rw [Text.isEncodable_iff, String.toList_append] at *
  exact h.append (.of_all (by decide))

theorem printed_line {files : FileTree} {text : String}
    (h : Text.isEncodable text = true) :
    printed files (text ++ "\n") = ⟨0, [], text ++ "\n", [], files, none⟩ :=
  if_pos (isEncodable_line h)

end Exit

end TraitIndex
