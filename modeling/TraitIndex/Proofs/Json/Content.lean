import Mathlib.Algebra.Group.Nat.Defs
import Mathlib.Data.List.TakeDrop
import Mathlib.Data.List.TakeWhile
import TraitIndex.Proofs.Json.RoundTrip

/-!
# What JSON can hold

The values that are read from JSON are of seven kinds, and no whole number in
them is too long to be shown.  So each of them has a text, which is empty only
where the value counts as not given.  A text that begins with a quotation mark
is read as a text, one that begins with a bracket as a list.
-/

namespace TraitIndex

/-! ## Texts of numbers -/

theorem Text.ofDigits_lt {base : Nat} {digits : List Nat}
    (h : ∀ digit ∈ digits, digit < base) :
    Text.ofDigits base digits < base ^ digits.length := by
  have hfold (value : Nat) :
      digits.foldl (fun value digit => value * base + digit) value + 1 ≤
      (value + 1) * base ^ digits.length := by
    induction digits generalizing value with
    | nil => simp
    | cons digit rest ih =>
        obtain ⟨hdigit, hrest⟩ := List.forall_mem_cons.mp h
        calc (digit :: rest).foldl (fun value digit => value * base + digit)
              value + 1
          _ ≤ (value * base + digit + 1) * base ^ rest.length := ih hrest _
          _ ≤ ((value + 1) * base) * base ^ rest.length := by
              apply Nat.mul_le_mul_right
              rw [Nat.add_mul]
              omega
          _ = (value + 1) * base ^ (digit :: rest).length := by
              rw [Nat.mul_assoc, List.length_cons, Nat.pow_succ']
  simpa [Text.ofDigits, Nat.succ_le_iff] using hfold 0

namespace Number

theorem layOutDecimal_ne_nil (digits : List Char) (power : Int) :
    layOutDecimal digits power ≠ [] := by
  unfold layOutDecimal
  split
  · simp
  split
  · simp
  · simp

theorem Binary64.toText_ne_empty (number : Binary64) : number.toText ≠ "" := by
  cases number with
  | nan => decide
  | infinite negative => cases negative <;> decide
  | finite negative mantissa exponent =>
      rw [toText, ne_eq, String.ofList_eq_empty_iff]
      cases negative with
      | true => simp
      | false =>
          by_cases h : mantissa = 0
          · simp [h]
          · simp [h, layOutDecimal_ne_nil]

end Number

namespace Value

theorem toString_ne_empty (number : Int) : toString number ≠ "" := by
  rw [Int.toString_eq_repr, Int.repr_eq_if]
  split
  · rw [Nat.repr_eq_ofList_toDigits, ne_eq, String.ofList_eq_empty_iff]
    exact Nat.toDigits_ne_nil
  · simp

/-! ## Values of JSON -/

/-- A value that JSON can hold, with whole numbers short enough to be read. -/
inductive IsJson : Value → Prop
  | null : IsJson .null
  | bool (truth : Bool) : IsJson (.bool truth)
  | int {number : Int} : number.natAbs < 10 ^ digitLimit → IsJson (.int number)
  | float (number : Number.Binary64) : IsJson (.float number)
  | text (content : String) : IsJson (.text content)
  | list {items : List Value} : (∀ item ∈ items, IsJson item) →
    IsJson (.list items)
  | mapping {fields : List (Value × Value)} :
    (∀ field ∈ fields, field.1.isText = true) →
      (∀ field ∈ fields, IsJson field.2) → IsJson (.mapping fields)

theorem allShowable_iff {items : List Value} :
    allShowable items = true ↔ ∀ item ∈ items, item.isShowable = true := by
  induction items with
  | nil => simp [allShowable]
  | cons item rest ih => simp [allShowable, ih]

theorem fieldsShowable_iff {fields : List (Value × Value)} :
    fieldsShowable fields = true ↔
    ∀ field ∈ fields, field.1.isShowable = true ∧
      field.2.isShowable = true := by
  induction fields with
  | nil => simp [fieldsShowable]
  | cons field rest ih => simp [fieldsShowable, ih]

theorem isShowable_int {number : Int} :
    (Value.int number).isShowable = true ↔ number.natAbs < 10 ^ digitLimit := by
  simp only [isShowable, decide_eq_true_eq, Nat.pow_eq]

theorem exists_of_isText {value : Value} (h : value.isText = true) :
    ∃ content, value = .text content := by
  cases value with
  | text content => exact ⟨content, rfl⟩
  | _ => cases h

namespace IsJson

variable {value : Value}

theorem isShowable (h : IsJson value) : value.isShowable = true := by
  induction h with
  | int hnumber => exact isShowable_int.mpr hnumber
  | list _ ih => exact allShowable_iff.mpr ih
  | mapping hkeys _ ih =>
      refine fieldsShowable_iff.mpr fun field hfield => ⟨?_, ih field hfield⟩
      obtain ⟨name, hname⟩ := exists_of_isText (hkeys field hfield)
      rw [hname]
      rfl
  | null => rfl
  | bool truth => rfl
  | float number => rfl
  | text content => rfl

theorem printed_eq (h : IsJson value) : value.printed = .ok value.toText := by
  rw [printed, if_pos h.isShowable]

/-- A value that counts as given has a text that is not empty. -/
theorem toText_ne_empty (h : IsJson value) (hgiven : value.isTruthy = true) :
    value.toText ≠ "" := by
  cases h with
  | null => cases hgiven
  | bool truth =>
      obtain rfl : truth = true := hgiven
      decide
  | int _ => exact toString_ne_empty _
  | float number => exact number.toText_ne_empty
  | text content => simpa [isTruthy, toText] using hgiven
  | list _ => simp [toText, toQuoted]
  | mapping _ _ => simp [toText, toQuoted]

end IsJson

/-! ## Objects -/

theorem forall_assign {holds : Value × Value → Prop} {key item : Value}
    {fields : List (Value × Value)} (hfields : ∀ field ∈ fields, holds field)
    (hadded : ∀ name, (name = key ∨ ∃ field ∈ fields, field.1 = name) →
      holds (name, item)) :
    ∀ field ∈ assign key item fields, holds field := by
  induction fields with
  | nil =>
      intro field hfield
      obtain rfl := List.mem_singleton.mp hfield
      exact hadded key (.inl rfl)
  | cons first rest ih =>
      obtain ⟨hfirst, hrest⟩ := List.forall_mem_cons.mp hfields
      rw [assign]
      split
      · exact List.forall_mem_cons.mpr
          ⟨hadded first.1 (.inr ⟨first, List.mem_cons_self, rfl⟩), hrest⟩
      · refine List.forall_mem_cons.mpr
          ⟨hfirst, ih hrest fun name hname => hadded name ?_⟩
        exact hname.imp_right fun ⟨field, hfield, heq⟩ =>
          ⟨field, List.mem_cons_of_mem _ hfield, heq⟩

/-- The last value of each name counts, and is one of those that were read. -/
theorem isJson_ofFields {fields : List (Value × Value)}
    (hkeys : ∀ field ∈ fields, field.1.isText = true)
    (hitems : ∀ field ∈ fields, IsJson field.2) : IsJson (ofFields fields) := by
  have hbuilt : ∀ kept ∈
      fields.foldl (fun built field => assign field.1 field.2 built) [],
        kept.1.isText = true ∧ IsJson kept.2 := by
    refine List.foldlRecOn (motive := fun (built : List (Value × Value)) =>
      ∀ kept ∈ built, kept.1.isText = true ∧ IsJson kept.2)
      fields _ (fun _ hnil => absurd hnil List.not_mem_nil) ?_
    intro built hbuilt field hfield
    refine forall_assign hbuilt ?_
    rintro name (rfl | ⟨kept, hkept, rfl⟩)
    · exact ⟨hkeys field hfield, hitems field hfield⟩
    · exact ⟨(hbuilt _ hkept).1, hitems field hfield⟩
  exact .mapping (fun kept hkept => (hbuilt kept hkept).1)
    (fun kept hkept => (hbuilt kept hkept).2)

theorem isJson_fieldOrNull {fields : List (Value × Value)}
    (h : ∀ field ∈ fields, IsJson field.2) (name : String) :
    IsJson (fieldOrNull fields name) := by
  cases hfound : field? fields name with
  | none =>
      rw [fieldOrNull, hfound]
      exact .null
  | some item =>
      obtain ⟨field, hfield, rfl⟩ := Option.map_eq_some_iff.mp hfound
      rw [fieldOrNull, hfound]
      exact h field (List.mem_of_find?_eq_some hfield)

/-- The text of a field, or a stand-in when the field is missing or counts as
not given. -/
def givenText (fields : List (Value × Value)) (name standIn : String) :
    String :=
  let value := fieldOrNull fields name
  if value.isTruthy then value.toText else standIn

theorem printedOr_eq_givenText {fields : List (Value × Value)}
    (h : ∀ field ∈ fields, IsJson field.2) (name standIn : String) :
    (if (fieldOrNull fields name).isTruthy then
      (fieldOrNull fields name).printed
      else .ok standIn) = .ok (givenText fields name standIn) := by
  rw [(isJson_fieldOrNull h name).printed_eq, givenText]
  split <;> rfl

end Value

namespace Json

open Value

/-! ## Scalars that are read -/

theorem isAsciiDigit_of_wholePart? {text whole after : List Char}
    (h : wholePart? text = some (whole, after)) : ∀ c ∈ whole,
      Text.isAsciiDigit c = true := by
  cases text with
  | nil => cases h
  | cons c rest =>
      rw [wholePart?] at h
      split_ifs at h with hzero hdigit
      · obtain ⟨rfl, -⟩ := Prod.mk.inj (Option.some.inj h)
        exact List.forall_mem_singleton.mpr (by decide)
      · obtain ⟨rfl, -⟩ := Prod.mk.inj (Option.some.inj h)
        refine List.forall_mem_cons.mpr ⟨hdigit, fun digit hmem => ?_⟩
        have hspan : (digitsAhead rest).1 =
            rest.takeWhile Text.isAsciiDigit := by
          rw [digitsAhead, List.span_eq_takeWhile_dropWhile]
        exact List.mem_takeWhile_imp (hspan ▸ hmem)

theorem decimalValue_lt {digits : List Char}
    (h : ∀ c ∈ digits, Text.isAsciiDigit c = true) :
    decimalValue digits < 10 ^ digits.length := by
  have hvalues : ∀ value ∈ digits.map fun c => c.toNat - 48, value < 10 := by
    refine List.forall_mem_map.mpr fun c hc => ?_
    have hrange : '0' ≤ c ∧ c ≤ '9' := by simpa [Text.isAsciiDigit] using h c hc
    have hlast : c.toNat ≤ 57 := hrange.2
    omega
  simpa [decimalValue] using Text.ofDigits_lt hvalues

theorem isJson_of_numberValue {negative : Bool} {whole : List Char}
    {fraction : Option (List Char)} {exponent : Option (Bool × List Char)}
    {content : Value} (hwhole : ∀ c ∈ whole, Text.isAsciiDigit c = true)
    (h : numberValue negative whole fraction exponent = .ok content) :
    IsJson content := by
  unfold numberValue at h
  split at h
  · split at h
    · cases h
    · next hlength =>
        obtain rfl := Except.ok.inj h
        apply IsJson.int
        have hvalue := decimalValue_lt hwhole
        have hlimit : 10 ^ whole.length ≤ 10 ^ digitLimit :=
          Nat.pow_le_pow_right (by decide) (Nat.not_lt.mp hlength)
        cases negative <;> simp <;> omega
  · obtain rfl := Except.ok.inj h
    exact .float _

theorem isJson_of_number {text rest : List Char} {content : Value}
    (h : number text = .ok (content, rest)) : IsJson content := by
  unfold number at h
  dsimp only at h
  split at h
  · cases h
  · next whole afterWhole hwhole =>
      split at h
      · next number hnumber =>
          obtain ⟨rfl, -⟩ := Prod.mk.inj (Except.ok.inj h)
          exact isJson_of_numberValue
            (isAsciiDigit_of_wholePart? hwhole) hnumber
      · cases h

theorem isJson_of_plainValue {text rest : List Char} {content : Value}
    (h : plainValue text = .ok (content, rest)) : IsJson content := by
  have hnamed : ∀ named ∈ namedValues, IsJson named.2 := by
    unfold namedValues
    simp only [List.forall_mem_cons]
    exact ⟨.null, .bool true, .bool false, .float _, .float _, .float _,
      fun _ hnil => absurd hnil List.not_mem_nil⟩
  unfold plainValue at h
  split at h
  · next found hfound =>
      obtain rfl := Except.ok.inj h
      obtain ⟨named, hmem, hname⟩ := List.exists_of_findSome?_eq_some hfound
      obtain ⟨after, -, heq⟩ := Option.map_eq_some_iff.mp hname
      exact (Prod.mk.inj heq).1 ▸ hnamed named hmem
  · exact isJson_of_number h

/-! ## Collections that are read -/

/-- What readers with the given fuel give. -/
structure GivesJson (fuel : Nat) : Prop where
  value {text rest : List Char} {content : Value} :
    value fuel text = .ok (content, rest) → IsJson content
  items {text rest : List Char} {contents : List Value} :
    items fuel text = .ok (contents, rest) → ∀ content ∈ contents,
      IsJson content
  members {text rest : List Char} {fields : List (Value × Value)} :
    members fuel text = .ok (fields, rest) →
      ∀ field ∈ fields, field.1.isText = true ∧ IsJson field.2

namespace GivesJson

variable {fuel : Nat} (h : GivesJson fuel) {text rest : List Char}

include h

theorem value_succ {content : Value}
    (hread : Json.value (fuel + 1) text = .ok (content, rest)) :
    IsJson content := by
  unfold Json.value at hread
  split at hread
  · split at hread
    · obtain ⟨rfl, -⟩ := Prod.mk.inj (Except.ok.inj hread)
      exact .text _
    · cases hread
  · split at hread
    · obtain ⟨rfl, -⟩ := Prod.mk.inj (Except.ok.inj hread)
      exact .list fun _ hnil => absurd hnil List.not_mem_nil
    · split at hread
      · next contents after hitems =>
          obtain ⟨rfl, -⟩ := Prod.mk.inj (Except.ok.inj hread)
          exact .list (h.items hitems)
      · cases hread
  · split at hread
    · obtain ⟨rfl, -⟩ := Prod.mk.inj (Except.ok.inj hread)
      exact .mapping (fun _ hnil => absurd hnil List.not_mem_nil)
        (fun _ hnil => absurd hnil List.not_mem_nil)
    · split at hread
      · next fields after hmembers =>
          obtain ⟨rfl, -⟩ := Prod.mk.inj (Except.ok.inj hread)
          exact isJson_ofFields
            (fun field hfield => (h.members hmembers field hfield).1)
            (fun field hfield => (h.members hmembers field hfield).2)
      · cases hread
  · exact isJson_of_plainValue hread

theorem items_succ {contents : List Value}
    (hread : Json.items (fuel + 1) text = .ok (contents, rest)) :
    ∀ content ∈ contents, IsJson content := by
  unfold Json.items at hread
  split at hread
  · cases hread
  · next item after hitem =>
      split at hread
      · obtain ⟨rfl, -⟩ := Prod.mk.inj (Except.ok.inj hread)
        exact List.forall_mem_singleton.mpr (h.value hitem)
      · split at hread
        · next more behind hmore =>
            obtain ⟨rfl, -⟩ := Prod.mk.inj (Except.ok.inj hread)
            exact List.forall_mem_cons.mpr ⟨h.value hitem, h.items hmore⟩
        · cases hread
      · cases hread

theorem members_succ {fields : List (Value × Value)}
    (hread : Json.members (fuel + 1) text = .ok (fields, rest)) :
    ∀ field ∈ fields, field.1.isText = true ∧ IsJson field.2 := by
  unfold Json.members at hread
  split at hread
  · split at hread
    · cases hread
    · split at hread
      · split at hread
        · cases hread
        · next item after hitem =>
            split at hread
            · obtain ⟨rfl, -⟩ := Prod.mk.inj (Except.ok.inj hread)
              exact List.forall_mem_singleton.mpr ⟨rfl, h.value hitem⟩
            · split at hread
              · next more behind hmore =>
                  obtain ⟨rfl, -⟩ := Prod.mk.inj (Except.ok.inj hread)
                  exact List.forall_mem_cons.mpr
                    ⟨⟨rfl, h.value hitem⟩, h.members hmore⟩
              · cases hread
            · cases hread
      · cases hread
  · cases hread

end GivesJson

theorem givesJson (fuel : Nat) : GivesJson fuel := by
  induction fuel with
  | zero =>
      refine ⟨fun h => ?_, fun h => ?_, fun h => ?_⟩
      · cases h
      · cases h
      · cases h
  | succ fuel ih => exact ⟨ih.value_succ, ih.items_succ, ih.members_succ⟩

/-! ## Whole texts -/

theorem exists_value_of_decodeChars {text : List Char} {content : Value}
    (h : decodeChars text = .ok content) :
    ∃ after, value (enoughFuel text) (skipSpace text) = .ok (content, after) ∧
      skipSpace after = [] := by
  have hdocument : document text = .ok content := by
    unfold decodeChars at h
    split at h
    · next found hfound =>
        obtain rfl := Except.ok.inj h
        exact hfound
    · cases h
    · cases h
  unfold document at hdocument
  split at hdocument
  · cases hdocument
  · split at hdocument
    · cases hdocument
    · next found after hread =>
        split at hdocument
        · next hend =>
            obtain rfl := Except.ok.inj hdocument
            exact ⟨after, hread, hend⟩
        · cases hdocument

theorem isJson_of_decodeChars {text : List Char} {content : Value}
    (h : decodeChars text = .ok content) : IsJson content := by
  obtain ⟨after, hread, -⟩ := exists_value_of_decodeChars h
  exact (givesJson _).value hread

theorem exists_string_of_decodeChars {text : List Char} {content : Value}
    (h : decodeChars ('"' :: text) = .ok content) :
    ∃ chars after, stringBody ('"' :: text) 0 text = .ok (chars, after) ∧
        skipSpace after = [] ∧
      content = .text (String.ofList chars) := by
  obtain ⟨after, hread, hend⟩ := exists_value_of_decodeChars h
  rw [skipSpace_cons (by decide), enoughFuel, value] at hread
  split at hread
  · next chars rest hbody =>
      obtain ⟨rfl, rfl⟩ := Prod.mk.inj (Except.ok.inj hread)
      exact ⟨chars, rest, hbody, hend, rfl⟩
  · cases hread

theorem exists_list_of_decodeChars {text : List Char} {content : Value}
    (h : decodeChars ('[' :: text) = .ok content) : ∃ items,
      content = .list items := by
  obtain ⟨after, hread, -⟩ := exists_value_of_decodeChars h
  rw [skipSpace_cons (by decide), enoughFuel, value] at hread
  split at hread
  · obtain ⟨rfl, -⟩ := Prod.mk.inj (Except.ok.inj hread)
    exact ⟨[], rfl⟩
  · split at hread
    · next values rest hitems =>
        obtain ⟨rfl, -⟩ := Prod.mk.inj (Except.ok.inj hread)
        exact ⟨values, rfl⟩
    · cases hread

end Json

end TraitIndex
