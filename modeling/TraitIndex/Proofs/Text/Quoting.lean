import Mathlib.Algebra.Group.Nat.Defs
import Mathlib.Data.Nat.Init
import TraitIndex.Proofs.Json.Strings
import TraitIndex.Text.Quote
import TraitIndex.Text.Utf8

/-!
# Text in quotation marks, read back

A text in quotation marks ends at the first mark that is not escaped, and what
stands between the marks is read back character by character.  So quoted texts
can be written one after the other, and nothing that one of them holds is taken
for what follows it.
-/

namespace TraitIndex.Text

/-- What is written first can be told from what follows it. -/
def Separable {α : Type} (write : α → List Char) : Prop :=
  ∀ ⦃a b : α⦄ ⦃s t : List Char⦄, write a ++ s = write b ++ t → a = b ∧ s = t

/-! ## One character -/

def hexNumber? (digits : List Char) : Option Nat :=
  (digits.mapM hexValue?).map (ofDigits 16)

def readCode? (width : Nat) (text : List Char) : Option (Char × List Char) :=
  (hexNumber? (text.take width)).map fun code =>
  (Char.ofNat code, text.drop width)

/-- The character that stands behind a backslash, and what follows it. -/
def readEscape? : List Char → Option (Char × List Char)
  | [] => none
  | letter :: rest =>
      if letter = 'n' then some ('\n', rest)
      else if letter = 'r' then some ('\r', rest)
      else if letter = 't' then some ('\t', rest)
      else if letter = 'x' then readCode? 2 rest
      else if letter = 'u' then readCode? 4 rest
      else if letter = 'U' then readCode? 8 rest
      else some (letter, rest)

def readQuotedChar? : List Char → Option (Char × List Char)
  | [] => none
  | c :: rest => if c = '\\' then readEscape? rest else some (c, rest)

theorem hexDigits_read {width : Nat} (hwidth : 1 ≤ width) {number : Nat}
    (h : number < 16 ^ width) :
    (hexDigits width number).length = width ∧
      hexNumber? (hexDigits width number) = some number := by
  induction width, hwidth using Nat.le_induction generalizing number with
  | base =>
      rw [Nat.pow_one] at h
      rw [hexDigits_one h]
      simp [hexNumber?, hexValue?_digitChar number h, ofDigits]
  | succ width hwidth ih =>
      have hrest : number / 16 < 16 ^ width := by
        rw [Nat.pow_succ] at h
        omega
      have hdigit :=
        hexValue?_digitChar (number % 16) (Nat.mod_lt _ (by decide))
      obtain ⟨hlength, hread⟩ := ih hrest
      obtain ⟨values, hvalues, hnumber⟩ := Option.map_eq_some_iff.mp hread
      refine ⟨by simp [hexDigits_succ hwidth, hlength], ?_⟩
      rw [hexDigits_succ hwidth, hexNumber?, List.mapM_append, hvalues]
      simp only [ofDigits] at hnumber
      simp [hdigit, ofDigits, hnumber, Nat.div_add_mod']

theorem readCode?_hexDigits {width : Nat} (hwidth : 1 ≤ width) {c : Char}
    (h : c.toNat < 16 ^ width) (rest : List Char) :
    readCode? width (hexDigits width c.toNat ++ rest) = some (c, rest) := by
  obtain ⟨hlength, hread⟩ := hexDigits_read hwidth h
  simp [readCode?, List.take_left' hlength, List.drop_left' hlength, hread]

theorem readQuotedChar?_codePointEscape (c : Char) (rest : List Char) :
    readQuotedChar? (codePointEscape c ++ rest) = some (c, rest) := by
  have hvalid : c.toNat < 0xD800 ∨ (0xDFFF < c.toNat ∧ c.toNat < 0x110000) :=
    c.valid
  unfold codePointEscape
  split_ifs with hbyte hshort
  · exact readCode?_hexDigits (by decide) hbyte rest
  · exact readCode?_hexDigits (by decide) hshort rest
  · exact readCode?_hexDigits (by decide) (by omega) rest

theorem readEscape?_mark {mark : Char}
    (hmark : mark = singleMark ∨ mark = doubleMark) (rest : List Char) :
    readEscape? (mark :: rest) = some (mark, rest) := by
  rcases hmark with rfl | rfl <;> rfl

theorem readQuotedChar?_quotedChar {mark : Char}
    (hmark : mark = singleMark ∨ mark = doubleMark) (c : Char)
    (rest : List Char) :
    readQuotedChar? (quotedChar mark c ++ rest) = some (c, rest) := by
  unfold quotedChar
  split_ifs with hself hfeed hreturn htab hprintable
  · rw [Bool.or_eq_true, decide_eq_true_eq, decide_eq_true_eq] at hself
    rcases hself with rfl | rfl
    · exact readEscape?_mark hmark rest
    · rfl
  · subst hfeed
    rfl
  · subst hreturn
    rfl
  · subst htab
    rfl
  · have hplain : c ≠ '\\' := by
      rintro rfl
      simp at hself
    simp [readQuotedChar?, hplain]
  · exact readQuotedChar?_codePointEscape c rest

theorem separable_quotedChar {mark : Char}
    (hmark : mark = singleMark ∨ mark = doubleMark) :
    Separable (quotedChar mark) := by
  intro a b s t h
  have hread := congrArg readQuotedChar? h
  rw [readQuotedChar?_quotedChar hmark, readQuotedChar?_quotedChar hmark]
    at hread
  exact Prod.mk.inj (Option.some.inj hread)

/-- Whatever stands between the marks does not begin like one. -/
theorem head_quotedChar {mark : Char}
    (hmark : mark = singleMark ∨ mark = doubleMark) (c : Char) :
    ∃ first rest, quotedChar mark c = first :: rest ∧ first ≠ mark := by
  have hbackslash : '\\' ≠ mark := by
    rcases hmark with rfl | rfl <;> decide
  unfold quotedChar codePointEscape
  split_ifs with hself <;> try exact ⟨'\\', _, rfl, hbackslash⟩
  -- Only a printable character stands for itself, and it is not the mark.
  refine ⟨c, [], rfl, ?_⟩
  rintro rfl
  simp at hself

/-! ## A whole text -/

theorem quotationMark_cases (text : List Char) :
    quotationMark text = singleMark ∨ quotationMark text = doubleMark := by
  unfold quotationMark
  split_ifs
  · exact .inr rfl
  · exact .inl rfl

/-- The closing mark is the first one that is read. -/
theorem quotedChars_closed {mark : Char}
    (hmark : mark = singleMark ∨ mark = doubleMark) {a b s t : List Char}
    (h : a.flatMap (quotedChar mark) ++ mark :: s =
      b.flatMap (quotedChar mark) ++ mark :: t) :
    a = b ∧ s = t := by
  induction a generalizing b with
  | nil =>
      cases b with
      | nil => simpa using h
      | cons c b =>
          obtain ⟨first, rest, hfirst, hne⟩ := head_quotedChar hmark c
          simp only [List.flatMap_nil, List.nil_append,
            List.flatMap_cons, hfirst, List.cons_append, List.cons.injEq] at h
          exact absurd h.1.symm hne
  | cons c a ih =>
      cases b with
      | nil =>
          obtain ⟨first, rest, hfirst, hne⟩ := head_quotedChar hmark c
          simp only [List.flatMap_nil, List.nil_append,
            List.flatMap_cons, hfirst, List.cons_append, List.cons.injEq] at h
          exact absurd h.1 hne
      | cons d b =>
          rw [List.flatMap_cons, List.flatMap_cons, List.append_assoc,
            List.append_assoc] at h
          obtain ⟨rfl, hrest⟩ := separable_quotedChar hmark h
          obtain ⟨rfl, rfl⟩ := ih hrest
          exact ⟨rfl, rfl⟩

theorem separable_quotedChars : Separable quotedChars := by
  intro a b s t h
  simp only [quotedChars, List.cons_append, List.append_assoc, List.nil_append]
    at h
  obtain ⟨hmark, hbody⟩ := List.cons.inj h
  rw [hmark] at hbody
  exact quotedChars_closed (quotationMark_cases b) hbody

/-! ## Lists -/

section

variable {α : Type} {write : α → List Char}

/-- What follows an item of a list in brackets. -/
def listTail (write : α → List Char) : List α → List Char
  | [] => [']']
  | item :: rest => ',' :: ' ' :: (write item ++ listTail write rest)

theorem intercalate_eq_listTail (item : α) (rest : List α) :
    [',', ' '].intercalate ((item :: rest).map write) ++ [']'] =
      write item ++ listTail write rest := by
  induction rest generalizing item with
  | nil => simp [List.intercalate, listTail]
  | cons next rest ih =>
      have hnext := ih next
      simp only [List.intercalate, List.map_cons, List.intersperse_cons_cons,
        List.flatten_cons, List.append_assoc] at hnext ⊢
      rw [hnext]
      rfl

theorem listTail_injective (hwrite : Separable write) {a b : List α}
    (h : listTail write a = listTail write b) : a = b := by
  induction a generalizing b with
  | nil =>
      cases b with
      | nil => rfl
      | cons other b => simp [listTail] at h
  | cons item a ih =>
      cases b with
      | nil => simp [listTail] at h
      | cons other b =>
          simp only [listTail, List.cons.injEq, true_and] at h
          obtain ⟨rfl, hrest⟩ := hwrite h
          rw [ih hrest]

/-- Lists in brackets are told apart when their items are, and none of these
begins like the end of a list. -/
theorem listed_injective (hwrite : Separable write)
    (hhead : ∀ item, ∃ first rest, write item = first :: rest ∧ first ≠ ']')
    {a b : List α}
    (h : [',', ' '].intercalate (a.map write) ++ [']'] =
      [',', ' '].intercalate (b.map write) ++ [']']) :
    a = b := by
  have hend (item : α) (tail : List Char) : write item ++ tail ≠ [']'] := by
    obtain ⟨first, rest, hitem, hfirst⟩ := hhead item
    rw [hitem]
    exact fun h => hfirst (List.cons.inj h).1
  cases a with
  | nil =>
      cases b with
      | nil => rfl
      | cons other b =>
          rw [intercalate_eq_listTail] at h
          exact absurd h.symm (hend other _)
  | cons item a =>
      cases b with
      | nil =>
          rw [intercalate_eq_listTail] at h
          exact absurd h (hend item _)
      | cons other b =>
          rw [intercalate_eq_listTail, intercalate_eq_listTail] at h
          obtain ⟨rfl, hrest⟩ := hwrite h
          rw [listTail_injective hwrite hrest]

end

/-! ## Bytes -/

/-- The bytes of a character are those of the standard encoding. -/
theorem utf8Bytes_eq (c : Char) : utf8Bytes c = String.utf8EncodeChar c := by
  have hvalid : c.toNat < 0xD800 ∨ (0xDFFF < c.toNat ∧ c.toNat < 0x110000) :=
    c.valid
  have hcode : c.val.toNat = c.toNat := rfl
  have hbound (code bound : Nat) : (code ≤ bound) = (code < bound + 1) :=
    propext Nat.lt_succ_iff.symm
  simp only [utf8Bytes, String.utf8EncodeChar, hcode, hbound]
  generalize c.toNat = code at hvalid
  split_ifs with hone htwo hthree
  · rfl
  · have hlead : code / 64 % 32 = code / 64 := Nat.mod_eq_of_lt (by omega)
    simp only [hlead, Nat.add_comm]
  · have hlead : code / 4096 % 16 = code / 4096 := Nat.mod_eq_of_lt (by omega)
    simp only [hlead, Nat.add_comm]
  · have hlead : code / 262144 % 8 = code / 262144 :=
      Nat.mod_eq_of_lt (by omega)
    simp only [hlead, Nat.add_comm]

theorem encodeUtf8_injective : Function.Injective encodeUtf8 := by
  intro a b h
  have hencode : utf8Bytes = String.utf8EncodeChar := funext utf8Bytes_eq
  have hbytes : a.utf8Encode = b.utf8Encode := by
    rw [List.utf8Encode, List.utf8Encode, ← hencode]
    exact congrArg List.toByteArray h
  have hread := congrArg ByteArray.utf8Decode? hbytes
  rw [List.utf8Decode?_utf8Encode, List.utf8Decode?_utf8Encode] at hread
  simpa using hread

end TraitIndex.Text
