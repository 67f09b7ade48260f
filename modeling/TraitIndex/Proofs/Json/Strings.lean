import Mathlib.Data.List.Basic
import TraitIndex.Json.Decode
import TraitIndex.Json.Encode

/-!
# Strings written and read

Both ways of writing a string, with the characters as they are and in ASCII, are
read back as the string.  A written character is followed by whatever comes
next; a reader that has got past it has read exactly that character.
-/

namespace TraitIndex

/-! ## Hexadecimal digits -/

namespace Text

theorem hexValue?_digitChar :
    ∀ digit < 16, hexValue? (Nat.digitChar digit) = some digit := by
  decide

theorem hexDigits_one {number : Nat} (h : number < 16) :
    hexDigits 1 number = [Nat.digitChar number] := by
  simp [hexDigits, Nat.toDigits_of_lt_base h]

theorem hexDigits_succ {width : Nat} (hwidth : 1 ≤ width) (number : Nat) :
    hexDigits (width + 1) number =
      hexDigits width (number / 16) ++ [Nat.digitChar (number % 16)] := by
  unfold hexDigits
  rw [Nat.toDigits_eq_if (b := 16) (by decide)]
  by_cases h : number < 16
  · have hzero : number / 16 = 0 := Nat.div_eq_of_lt h
    have hpadding :
        List.replicate width '0' = List.replicate (width - 1) '0' ++ ['0'] := by
      rw [← List.replicate_succ']
      congr
      omega
    simp [h, hzero, Nat.mod_eq_of_lt h, hpadding]
  · simp [h]

end Text

namespace Json

/-- Every number below 65536 is written by four digits, and they are read as
that number. -/
theorem exists_hexQuad? {number : Nat} (h : number < 0x10000) :
    ∃ a b c d, Text.hexDigits 4 number = [a, b, c, d] ∧
      hexQuad? a b c d = some number := by
  have hlead : number / 16 / 16 / 16 < 16 := by omega
  have hdigit (digit : Nat) : Text.hexValue? (Nat.digitChar (digit % 16)) =
      some (digit % 16) :=
    Text.hexValue?_digitChar _ (Nat.mod_lt _ (by decide))
  have hnumber : Text.ofDigits 16
      [number / 16 / 16 / 16, number / 16 / 16 % 16, number / 16 % 16,
        number % 16] = number := by
    simp only [Text.ofDigits, List.foldl_cons, List.foldl_nil]
    omega
  refine ⟨Nat.digitChar (number / 16 / 16 / 16),
    Nat.digitChar (number / 16 / 16 % 16), Nat.digitChar (number / 16 % 16),
    Nat.digitChar (number % 16), ?_, ?_⟩
  · rw [Text.hexDigits_succ (by decide), Text.hexDigits_succ (by decide),
      Text.hexDigits_succ (by decide), Text.hexDigits_one hlead]
    rfl
  · rw [hexQuad?, hdigit, hdigit, hdigit, Text.hexValue?_digitChar _ hlead]
    exact congrArg some hnumber

/-! ## One character -/

variable (opening : List Char)

theorem stringBody_skip (used tail : List Char) :
    stringBody opening used.length (used ++ tail) =
      stringBody opening 0 tail := by
  induction used with
  | nil => rfl
  | cons c used ih => exact ih

theorem stringBody_plain {c : Char} (hquote : c ≠ '"') (hbackslash : c ≠ '\\')
    (hcontrol : ¬c.toNat < 0x20) (tail : List Char) :
    stringBody opening 0 (c :: tail) =
      consChar c (stringBody opening 0 tail) := by
  simp only [stringBody, hquote, hbackslash, hcontrol, if_false]

theorem stringBody_escaped {used tail : List Char} {c : Char}
    (h : escapeSequence opening ('\\' :: (used ++ tail)) (used ++ tail) =
      .ok (c, used.length)) :
    stringBody opening 0 ('\\' :: (used ++ tail)) =
      consChar c (stringBody opening 0 tail) := by
  have hquote : '\\' ≠ '"' := by decide
  simp only [stringBody, hquote, if_false, if_true, h, stringBody_skip]

theorem stringBody_simpleEscape {letter c : Char} (hu : letter ≠ 'u')
    (h : simpleEscape? letter = some c) (tail : List Char) :
    stringBody opening 0 ('\\' :: letter :: tail) =
      consChar c (stringBody opening 0 tail) := by
  have hescape :
      escapeSequence opening ('\\' :: ([letter] ++ tail)) ([letter] ++ tail) =
      .ok (c, [letter].length) := by
    simp only [escapeSequence, List.singleton_append, hu, if_false, h,
      List.length_singleton]
  exact stringBody_escaped opening hescape

theorem stringBody_code {a b c d : Char} {number : Nat}
    (hquad : hexQuad? a b c d = some number) {tail : List Char}
    (htail : tail ≠ [])
    (halone : ∀ e f g i after, isHighSurrogate number = true →
      tail = '\\' :: 'u' :: e :: f :: g :: i :: after →
        ∃ low, hexQuad? e f g i = some low ∧ isLowSurrogate low = false) :
    stringBody opening 0 ('\\' :: 'u' :: a :: b :: c :: d :: tail) =
      consChar (charOfCode number) (stringBody opening 0 tail) := by
  obtain ⟨next, after, rfl⟩ := List.exists_cons_of_ne_nil htail
  have hescape :
      escapeSequence opening ('\\' :: (['u', a, b, c, d] ++ next :: after))
      (['u', a, b, c, d] ++ next :: after) =
        .ok (charOfCode number, ['u', a, b, c, d].length) := by
    simp only [List.cons_append, List.nil_append, escapeSequence, if_true,
      unicodeEscape, hquad]
    split
    · next hhigh =>
        obtain ⟨low, hlow, hnot⟩ := halone _ _ _ _ _ hhigh rfl
        simp [hlow, hnot]
    · rfl
  exact stringBody_escaped opening hescape

theorem charOfCode_toNat (c : Char) : charOfCode c.toNat = c := by
  have hvalid : c.toNat < 0xD800 ∨ (0xDFFF < c.toNat ∧ c.toNat < 0x110000) :=
    c.valid
  have hhigh : isHighSurrogate c.toNat = false := by
    simp only [isHighSurrogate, Bool.and_eq_false_iff, decide_eq_false_iff_not]
    omega
  have hlow : isLowSurrogate c.toNat = false := by
    simp only [isLowSurrogate, Bool.and_eq_false_iff, decide_eq_false_iff_not]
    omega
  simp [charOfCode, hhigh, hlow]

theorem stringBody_codeUnit {c : Char} (h : c.toNat < 0x10000)
    {tail : List Char} (htail : tail ≠ []) :
    stringBody opening 0 (codeUnitEscape c.toNat ++ tail) =
      consChar c (stringBody opening 0 tail) := by
  have hvalid : c.toNat < 0xD800 ∨ (0xDFFF < c.toNat ∧ c.toNat < 0x110000) :=
    c.valid
  have hhigh : isHighSurrogate c.toNat = false := by
    simp only [isHighSurrogate, Bool.and_eq_false_iff, decide_eq_false_iff_not]
    omega
  obtain ⟨a, b, x, d, hdigits, hquad⟩ := exists_hexQuad? h
  have hread := stringBody_code opening hquad htail (by simp [hhigh])
  rw [charOfCode_toNat] at hread
  rw [codeUnitEscape, hdigits]
  exact hread

theorem unicodeEscape_pair {a b c d e f g i next : Char} {after : List Char}
    {high low : Nat} (hhighQuad : hexQuad? a b c d = some high)
    (hlowQuad : hexQuad? e f g i = some low)
    (hhigh : isHighSurrogate high = true) (hlow : isLowSurrogate low = true) :
    unicodeEscape ('u' :: a :: b :: c :: d :: '\\' :: 'u' :: e :: f :: g :: i ::
      next :: after) = .ok (joinSurrogates high low, 11) := by
  unfold unicodeEscape
  simp only [hhighQuad]
  rw [hhigh]
  simp only [hlowQuad, hlow, if_true]

theorem stringBody_pair {a b c d e f g i : Char} {high low : Nat}
    (hhighQuad : hexQuad? a b c d = some high)
    (hlowQuad : hexQuad? e f g i = some low)
    (hhigh : isHighSurrogate high = true) (hlow : isLowSurrogate low = true)
    {tail : List Char} (htail : tail ≠ []) :
    stringBody opening 0
        ('\\' :: 'u' :: a :: b :: c :: d :: '\\' :: 'u' :: e :: f :: g ::
          i :: tail) =
      consChar (joinSurrogates high low) (stringBody opening 0 tail) := by
  obtain ⟨next, after, rfl⟩ := List.exists_cons_of_ne_nil htail
  have hescape : escapeSequence opening
      ('\\' :: (['u', a, b, c, d, '\\', 'u', e, f, g, i] ++ next :: after))
      (['u', a, b, c, d, '\\', 'u', e, f, g, i] ++ next :: after) =
        .ok (joinSurrogates high low,
          ['u', a, b, c, d, '\\', 'u', e, f, g, i].length) := by
    simp only [List.cons_append, List.nil_append, escapeSequence, if_true,
      unicodeEscape_pair hhighQuad hlowQuad hhigh hlow]
    rfl
  exact stringBody_escaped opening hescape

/-- The two surrogates of a character beyond the first 65536 are read as that
character. -/
theorem stringBody_surrogates {c : Char} (h : 0x10000 ≤ c.toNat)
    {tail : List Char} (htail : tail ≠ []) :
    stringBody opening 0
        (codeUnitEscape (0xD800 + (c.toNat - 0x10000) / 0x400) ++
          codeUnitEscape (0xDC00 + (c.toNat - 0x10000) % 0x400) ++ tail) =
      consChar c (stringBody opening 0 tail) := by
  have hvalid : c.toNat < 0xD800 ∨ (0xDFFF < c.toNat ∧ c.toNat < 0x110000) :=
    c.valid
  generalize hhigh : 0xD800 + (c.toNat - 0x10000) / 0x400 = high
  generalize hlow : 0xDC00 + (c.toNat - 0x10000) % 0x400 = low
  have hhighBound : high < 0x10000 := by omega
  have hlowBound : low < 0x10000 := by omega
  have hisHigh : isHighSurrogate high = true := by
    simp only [isHighSurrogate, Bool.and_eq_true, decide_eq_true_eq]
    omega
  have hisLow : isLowSurrogate low = true := by
    simp only [isLowSurrogate, Bool.and_eq_true, decide_eq_true_eq]
    omega
  have hjoined : joinSurrogates high low = c := by
    have hcode : 0x10000 + (high - 0xD800) * 0x400 + (low - 0xDC00) =
        c.toNat := by omega
    rw [joinSurrogates, hcode]
    exact Char.ofNat_toNat c
  obtain ⟨a, b, x, d, hhighDigits, hhighQuad⟩ := exists_hexQuad? hhighBound
  obtain ⟨e, f, g, y, hlowDigits, hlowQuad⟩ := exists_hexQuad? hlowBound
  have hread := stringBody_pair opening hhighQuad hlowQuad hisHigh hisLow htail
  rw [hjoined] at hread
  rw [codeUnitEscape, codeUnitEscape, hhighDigits, hlowDigits]
  exact hread

/-! ## Written characters -/

/-- The escapes that every string needs: a letter, or the code of a control
character. -/
theorem requiredEscape?_eq_some {c : Char} {escape : List Char}
    (h : requiredEscape? c = some escape) :
    (∃ letter, letter ≠ 'u' ∧ letter ≠ '\n' ∧ simpleEscape? letter = some c ∧
        escape = ['\\', letter]) ∨
      (c.toNat < 0x20 ∧ escape = codeUnitEscape c.toNat) := by
  unfold requiredEscape? at h
  split_ifs at h with hquote hbackslash hline hreturn htab hform hback hcontrol
  all_goals obtain rfl := Option.some.inj h
  · subst hquote
    exact .inl ⟨'"', by decide, by decide, rfl, rfl⟩
  · subst hbackslash
    exact .inl ⟨'\\', by decide, by decide, rfl, rfl⟩
  · subst hline
    exact .inl ⟨'n', by decide, by decide, rfl, rfl⟩
  · subst hreturn
    exact .inl ⟨'r', by decide, by decide, rfl, rfl⟩
  · subst htab
    exact .inl ⟨'t', by decide, by decide, rfl, rfl⟩
  · subst hform
    exact .inl ⟨'f', by decide, by decide, rfl, rfl⟩
  · subst hback
    exact .inl ⟨'b', by decide, by decide, rfl, rfl⟩
  · exact .inr ⟨hcontrol, rfl⟩

theorem requiredEscape?_eq_none {c : Char} (h : requiredEscape? c = none) :
    c ≠ '"' ∧ c ≠ '\\' ∧ c ≠ '\n' ∧ ¬c.toNat < 0x20 := by
  unfold requiredEscape? at h
  split_ifs at h with hquote hbackslash hline hreturn htab hform hback hcontrol
  exact ⟨hquote, hbackslash, hline, hcontrol⟩

/-- A way of writing single characters that a reader of strings undoes. -/
def ReadsChars (write : Char → List Char) : Prop :=
  ∀ (opening : List Char) (c : Char) {tail : List Char}, tail ≠ [] →
    stringBody opening 0 (write c ++ tail) =
      consChar c (stringBody opening 0 tail)

theorem stringBody_requiredEscape {c : Char} {escape : List Char}
    (h : requiredEscape? c = some escape) {tail : List Char}
    (htail : tail ≠ []) :
    stringBody opening 0 (escape ++ tail) =
      consChar c (stringBody opening 0 tail) := by
  obtain ⟨letter, hu, -, hletter, rfl⟩ | ⟨hcontrol, rfl⟩ :=
    requiredEscape?_eq_some h
  · exact stringBody_simpleEscape opening hu hletter tail
  · exact stringBody_codeUnit opening (by omega) htail

theorem readsChars_stringChar : ReadsChars stringChar := by
  intro opening c tail htail
  cases h : requiredEscape? c with
  | some escape =>
      rw [stringChar, h]
      exact stringBody_requiredEscape opening h htail
  | none =>
      obtain ⟨hquote, hbackslash, -, hcontrol⟩ := requiredEscape?_eq_none h
      rw [stringChar, h]
      exact stringBody_plain opening hquote hbackslash hcontrol tail

theorem readsChars_asciiStringChar : ReadsChars asciiStringChar := by
  intro opening c tail htail
  cases h : requiredEscape? c with
  | some escape =>
      simp only [asciiStringChar, h]
      exact stringBody_requiredEscape opening h htail
  | none =>
      obtain ⟨hquote, hbackslash, -, hcontrol⟩ := requiredEscape?_eq_none h
      simp only [asciiStringChar, h]
      split
      · exact stringBody_plain opening hquote hbackslash hcontrol tail
      split
      · next hcode => exact stringBody_codeUnit opening hcode htail
      · next hcode => exact stringBody_surrogates opening (by omega) htail

/-! ## Whole strings -/

theorem stringBody_written {write : Char → List Char} (h : ReadsChars write)
    (text rest : List Char) :
    stringBody opening 0 (text.flatMap write ++ '"' :: rest) =
      .ok (text, rest) := by
  induction text with
  | nil => rfl
  | cons c text ih =>
      have htail : text.flatMap write ++ '"' :: rest ≠ [] := by simp
      rw [List.flatMap_cons, List.append_assoc, h opening c htail, ih]
      rfl

end Json

end TraitIndex
