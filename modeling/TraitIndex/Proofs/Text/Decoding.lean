import TraitIndex.Proofs.Outcome
import TraitIndex.Text.Blank
import TraitIndex.Text.Utf8

/-!
# Bytes and line ends, one part after the other

Bytes that make characters do so whatever comes after them, and a sequence at
fault stays at fault unless it only lacks its end.  Line ends can be unified
part by part as long as no part begins in the middle of one.
-/

namespace TraitIndex.Text

/-! ## One byte -/

/-- What one byte makes of a character being read: the character that is
complete, if one is, and the one that is not. -/
def utf8Step (position : Nat) : Option Utf8Partial → UInt8 →
    Except Utf8Fault (List Char × Option Utf8Partial)
  | none, byte =>
      match continuation? byte with
      | none => .error ⟨byte, position, position, .startByte⟩
      | some (0, _, _) => .ok ([Char.ofNat byte.toNat], none)
      | some (missing, low, high) =>
          let bits := byte.toNat % Nat.pow 2 (6 - missing)
          .ok ([], some ⟨byte, position, bits, missing, low, high⟩)
  | some unfinished, byte =>
      if unfinished.low ≤ byte && byte ≤ unfinished.high then
        let bits := unfinished.bits * 64 + byte.toNat % 64
        if unfinished.missing ≤ 1 then .ok ([Char.ofNat bits], none)
        else
          .ok ([], some { unfinished with
            bits := bits, missing := unfinished.missing - 1, low := 0x80,
            high := 0xBF })
      else .error ⟨unfinished.byte, unfinished.first, position - 1,
        .continuationByte⟩

theorem utf8Chars_cons (position : Nat) (unfinished : Option Utf8Partial)
    (byte : UInt8) (rest : List UInt8) :
    utf8Chars position unfinished (byte :: rest) =
      utf8Step position unfinished byte >>= fun read =>
        (utf8Chars (position + 1) read.2 rest).map (read.1 ++ ·) := by
  cases unfinished with
  | none =>
      rw [utf8Chars, utf8Step]
      rcases continuation? byte with _ | ⟨_ | missing, low, high⟩
      · rfl
      · rfl
      · exact (map_nil_append _).symm
  | some unfinished =>
      rw [utf8Chars, utf8Step]
      by_cases hrange : (unfinished.low ≤ byte && byte ≤ unfinished.high) = true
      · rw [if_pos hrange, if_pos hrange]
        by_cases hlast : unfinished.missing ≤ 1
        · simp only [if_pos hlast]
          rfl
        · simp only [if_neg hlast]
          exact (map_nil_append _).symm
      · rw [if_neg hrange, if_neg hrange]
        rfl

section

variable {position : Nat} {unfinished : Option Utf8Partial} {byte : UInt8}

theorem utf8Chars_of_step {read : List Char} {next : Option Utf8Partial}
    (h : utf8Step position unfinished byte = .ok (read, next))
    (rest : List UInt8) :
    utf8Chars position unfinished (byte :: rest) =
      (utf8Chars (position + 1) next rest).map (read ++ ·) := by
  rw [utf8Chars_cons, h]
  rfl

theorem utf8Chars_of_step_error {fault : Utf8Fault}
    (h : utf8Step position unfinished byte = .error fault) (rest : List UInt8) :
    utf8Chars position unfinished (byte :: rest) = .error fault := by
  rw [utf8Chars_cons, h]
  rfl

/-- Where the sequence starts that the next byte belongs to. -/
def sequenceStart (position : Nat) : Option Utf8Partial → Nat
  | none => position
  | some begun => begun.first

theorem utf8Step_error {fault : Utf8Fault}
    (h : utf8Step position unfinished byte = .error fault) :
    fault.complaint ≠ .endOfData ∧
      fault.first = sequenceStart position unfinished := by
  cases unfinished with
  | none =>
      rw [utf8Step] at h
      split at h <;> cases h
      exact ⟨by simp, rfl⟩
  | some begun =>
      rw [utf8Step] at h
      split at h
      · split at h <;> cases h
      · cases h
        exact ⟨by simp, rfl⟩

theorem utf8Step_ok {read : List Char} {next : Option Utf8Partial}
    (h : utf8Step position unfinished byte = .ok (read, next)) :
    read.length ≤ 1 ∧
      ∀ begun, next = some begun →
        begun.first = sequenceStart position unfinished := by
  cases unfinished with
  | none =>
      rw [utf8Step] at h
      split at h <;> cases h
      · exact ⟨Nat.le_refl 1, by simp⟩
      · refine ⟨Nat.zero_le 1, fun begun hbegun => ?_⟩
        obtain rfl := Option.some.inj hbegun
        rfl
  | some begun =>
      rw [utf8Step] at h
      split at h
      · split at h <;> cases h
        · exact ⟨Nat.le_refl 1, by simp⟩
        · refine ⟨Nat.zero_le 1, fun next hnext => ?_⟩
          obtain rfl := Option.some.inj hnext
          rfl
      · cases h

end

/-- What counts for how a character that is being read goes on. -/
def Utf8Partial.work (unfinished : Utf8Partial) : Nat × Nat × UInt8 × UInt8 :=
  (unfinished.bits, unfinished.missing, unfinished.low, unfinished.high)

/-- A byte is taken up in the same way wherever it stands. -/
theorem utf8Step_congr {unfinished other : Option Utf8Partial}
    (h : unfinished.map Utf8Partial.work = other.map Utf8Partial.work)
    (position place : Nat) (byte : UInt8) :
    (utf8Step position unfinished byte).toOption.map
      (fun read => (read.1, read.2.map (·.work))) =
      (utf8Step place other byte).toOption.map fun read =>
        (read.1, read.2.map (·.work)) := by
  cases unfinished with
  | none =>
      obtain rfl : other = none := Option.map_eq_none_iff.mp h.symm
      rw [utf8Step, utf8Step]
      split <;> rfl
  | some begun =>
      obtain ⟨begun', rfl, hwork⟩ := Option.map_eq_some_iff.mp h.symm
      simp only [Utf8Partial.work, Prod.mk.injEq] at hwork
      obtain ⟨hbits, hmissing, hlow, hhigh⟩ := hwork
      simp only [utf8Step, hbits, hmissing, hlow, hhigh]
      split
      · split <;> rfl
      · rfl

/-! ## Bytes -/

/-- The place of the bytes has no bearing on their characters. -/
theorem toOption_utf8Chars_congr {unfinished other : Option Utf8Partial}
    (h : unfinished.map Utf8Partial.work = other.map Utf8Partial.work)
    (position place : Nat) (bytes : List UInt8) :
    (utf8Chars position unfinished bytes).toOption =
      (utf8Chars place other bytes).toOption := by
  induction bytes generalizing unfinished other position place with
  | nil =>
      cases unfinished with
      | none =>
          obtain rfl : other = none := Option.map_eq_none_iff.mp h.symm
          rfl
      | some begun =>
          obtain ⟨begun', rfl, -⟩ := Option.map_eq_some_iff.mp h.symm
          rfl
  | cons byte rest ih =>
      have hsame := utf8Step_congr h position place byte
      cases hstep : utf8Step position unfinished byte with
      | error fault =>
          rw [hstep] at hsame
          cases hother : utf8Step place other byte with
          | error cause =>
              rw [utf8Chars_of_step_error hstep, utf8Chars_of_step_error hother]
              rfl
          | ok read =>
              rw [hother] at hsame
              cases hsame
      | ok read =>
          rw [hstep] at hsame
          cases hother : utf8Step place other byte with
          | error cause =>
              rw [hother] at hsame
              cases hsame
          | ok read' =>
              rw [hother] at hsame
              obtain ⟨hchars, hnext⟩ := Prod.mk.inj (Option.some.inj hsame)
              rw [utf8Chars_of_step hstep, utf8Chars_of_step hother,
                toOption_map, toOption_map, ih hnext (position + 1)
                  (place + 1), hchars]

theorem toOption_utf8Chars (position : Nat) (bytes : List UInt8) :
    (utf8Chars position none bytes).toOption = (decodeUtf8 bytes).toOption :=
  toOption_utf8Chars_congr rfl position 0 bytes

theorem utf8Chars_append {position : Nat} {unfinished : Option Utf8Partial}
    {bytes : List UInt8} {text : List Char}
    (h : utf8Chars position unfinished bytes = .ok text) (rest : List UInt8) :
    utf8Chars position unfinished (bytes ++ rest) =
      (utf8Chars (position + bytes.length) none rest).map (text ++ ·) := by
  induction bytes generalizing position unfinished text with
  | nil =>
      cases unfinished with
      | none =>
          obtain rfl := Except.ok.inj h
          exact (map_nil_append _).symm
      | some begun => cases h
  | cons byte bytes ih =>
      cases hstep : utf8Step position unfinished byte with
      | error fault =>
          rw [utf8Chars_of_step_error hstep] at h
          cases h
      | ok read =>
          rw [utf8Chars_of_step hstep] at h
          obtain ⟨more, hmore, rfl⟩ := exists_of_map_eq_ok h
          rw [List.cons_append, utf8Chars_of_step hstep, ih hmore,
            List.length_cons, Nat.add_right_comm, Nat.add_assoc]
          cases utf8Chars (position + (bytes.length + 1)) none rest <;>
            simp [Except.map]

/-- Bytes that make characters do so whatever comes after them. -/
theorem toOption_decodeUtf8_append {bytes : List UInt8} {text : List Char}
    (h : decodeUtf8 bytes = .ok text) (rest : List UInt8) :
    (decodeUtf8 (bytes ++ rest)).toOption =
      (decodeUtf8 rest).toOption.map (text ++ ·) := by
  rw [decodeUtf8, utf8Chars_append h, toOption_map, toOption_utf8Chars]

/-- A sequence at fault stays at fault, unless it only lacks its end. -/
theorem utf8Chars_append_of_error {position : Nat}
    {unfinished : Option Utf8Partial} {bytes : List UInt8} {fault : Utf8Fault}
    (h : utf8Chars position unfinished bytes = .error fault)
    (hend : fault.complaint ≠ .endOfData) (rest : List UInt8) :
    utf8Chars position unfinished (bytes ++ rest) = .error fault := by
  induction bytes generalizing position unfinished with
  | nil =>
      cases unfinished with
      | none => cases h
      | some begun =>
          obtain rfl := Except.error.inj h
          exact absurd rfl hend
  | cons byte bytes ih =>
      cases hstep : utf8Step position unfinished byte with
      | error cause =>
          rw [utf8Chars_of_step_error hstep] at h
          exact (utf8Chars_of_step_error hstep _).trans h
      | ok read =>
          rw [utf8Chars_of_step hstep] at h
          rw [List.cons_append, utf8Chars_of_step hstep, ih (eq_error_of_map h)]
          rfl

theorem exists_utf8Chars_take {position : Nat} {unfinished : Option Utf8Partial}
    {bytes : List UInt8} {fault : Utf8Fault}
    (h : utf8Chars position unfinished bytes = .error fault) :
    fault.first = sequenceStart position unfinished ∨
      position < fault.first ∧
        ∃ text, utf8Chars position unfinished
          (bytes.take (fault.first - position)) = .ok text := by
  induction bytes generalizing position unfinished with
  | nil =>
      cases unfinished with
      | none => cases h
      | some begun =>
          obtain rfl := Except.error.inj h
          exact .inl rfl
  | cons byte bytes ih =>
      cases hstep : utf8Step position unfinished byte with
      | error cause =>
          rw [utf8Chars_of_step_error hstep] at h
          obtain rfl := Except.error.inj h
          exact .inl (utf8Step_error hstep).2
      | ok read =>
          obtain ⟨chars, next⟩ := read
          rw [utf8Chars_of_step hstep] at h
          obtain hstart | ⟨hlater, text, htext⟩ := ih (eq_error_of_map h)
          · cases next with
            | some begun =>
                exact .inl (hstart.trans ((utf8Step_ok hstep).2 begun rfl))
            | none =>
                have hone : fault.first - position = 1 := by
                  rw [hstart, sequenceStart]
                  omega
                refine .inr ⟨by omega, chars ++ [], ?_⟩
                rw [hone, List.take_succ_cons, List.take_zero,
                  utf8Chars_of_step hstep]
                rfl
          · have hmore : fault.first - position =
                fault.first - (position + 1) + 1 := by omega
            refine .inr ⟨by omega, chars ++ text, ?_⟩
            rw [hmore, List.take_succ_cons, utf8Chars_of_step hstep, htext]
            rfl

/-- What comes before a sequence at fault makes characters. -/
theorem exists_decodeUtf8_take {bytes : List UInt8} {fault : Utf8Fault}
    (h : decodeUtf8 bytes = .error fault) :
    ∃ text, decodeUtf8 (bytes.take fault.first) = .ok text := by
  obtain hstart | ⟨-, text, htext⟩ := exists_utf8Chars_take h
  · rw [hstart]
    exact ⟨[], rfl⟩
  · exact ⟨text, htext⟩

/-- There are no more characters than bytes. -/
theorem length_of_utf8Chars {position : Nat} {unfinished : Option Utf8Partial}
    {bytes : List UInt8} {text : List Char}
    (h : utf8Chars position unfinished bytes = .ok text) :
    text.length ≤ bytes.length := by
  induction bytes generalizing position unfinished text with
  | nil =>
      cases unfinished with
      | none =>
          obtain rfl := Except.ok.inj h
          exact Nat.le_refl 0
      | some begun => cases h
  | cons byte bytes ih =>
      cases hstep : utf8Step position unfinished byte with
      | error fault =>
          rw [utf8Chars_of_step_error hstep] at h
          cases h
      | ok read =>
          rw [utf8Chars_of_step hstep] at h
          obtain ⟨more, hmore, rfl⟩ := exists_of_map_eq_ok h
          have hread := (utf8Step_ok hstep).1
          have hrest := ih hmore
          rw [List.length_append, List.length_cons]
          omega

/-! ## Line ends -/

theorem getLast?_of_cons {c : Char} {text : List Char}
    (h : (c :: text).getLast? ≠ some '\r') :
    text.getLast? ≠ some '\r' := by
  cases text with
  | nil => simp
  | cons next rest => rwa [List.getLast?_cons_cons] at h

/-- Line ends are unified part by part, unless a part ends in the middle of
one. -/
theorem unifyLineEnds_append {text rest : List Char}
    (h : text.getLast? ≠ some '\r' ∨ rest.head? ≠ some '\n') :
    unifyLineEnds (text ++ rest) =
      unifyLineEnds text ++ unifyLineEnds rest := by
  fun_induction unifyLineEnds text with
  | case1 => rfl
  | case2 text ih =>
      have hmore :=
        ih (h.imp_left fun hlast => getLast?_of_cons (getLast?_of_cons hlast))
      rw [List.cons_append, List.cons_append, unifyLineEnds, hmore,
        List.cons_append]
  | case3 text hfeed ih =>
      have hmore := ih (h.imp_left getLast?_of_cons)
      have hnext : ∀ after, text ++ rest ≠ '\n' :: after := by
        intro after hafter
        cases text with
        | nil =>
            rw [List.nil_append] at hafter
            simp [hafter] at h
        | cons next text => exact hfeed text (by rw [(List.cons.inj hafter).1])
      rw [List.cons_append, unifyLineEnds, hmore, List.cons_append]
      exact hnext
  | case4 c text _ hreturn ih =>
      have hmore := ih (h.imp_left getLast?_of_cons)
      have hplain : unifyLineEnds (c :: (text ++ rest)) =
          c :: unifyLineEnds (text ++ rest) := by
        rw [unifyLineEnds]
        · exact fun _ hc _ => hreturn hc
        · exact hreturn
      rw [List.cons_append, hplain, hmore, List.cons_append]

theorem length_unifyLineEnds (text : List Char) :
    (unifyLineEnds text).length ≤ text.length := by
  fun_induction unifyLineEnds text with
  | case1 => exact Nat.le_refl 0
  | case2 text ih => exact Nat.succ_le_succ (Nat.le_succ_of_le ih)
  | case3 text _ ih => exact Nat.succ_le_succ ih
  | case4 c text _ _ ih => exact Nat.succ_le_succ ih

end TraitIndex.Text
