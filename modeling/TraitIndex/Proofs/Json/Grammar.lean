import Mathlib.Data.List.TakeDrop
import TraitIndex.Proofs.Json.RoundTrip

/-!
# JSON texts

Which texts write which values.  A string is made of parts, a number of digits
with a point and a power perhaps, and collections may be laid out in any way.
Whatever is written by these rules is read back, whole numbers as long as they
are not longer than what can be held.
-/

namespace TraitIndex.Json

/-! ## Strings -/

/-- Characters that may stand in a string as they are. -/
def isUnescaped (c : Char) : Bool :=
  c != '"' && c != '\\' && 0x20 ≤ c.toNat

theorem isUnescaped_iff {c : Char} :
    isUnescaped c = true ↔ c ≠ '"' ∧ c ≠ '\\' ∧ ¬c.toNat < 0x20 := by
  simp [isUnescaped, and_assoc]

/-- A part of the inside of a string: a character as it is, a letter after a
backslash, the code of a character in four digits, or the codes of the two
surrogates of a character.  A surrogate without its partner stands for no
character and is no part. -/
inductive StringPart where
  | plain (c : Char) (unescaped : isUnescaped c = true)
  | letter (letter c : Char) (stands : simpleEscape? letter = some c)
  | code (a b c d : Char) (number : Nat)
    (digits : hexQuad? a b c d = some number)
      (high : isHighSurrogate number = false)
      (low : isLowSurrogate number = false)
  | pair (a b c d e f g i : Char) (first second : Nat)
      (digits : hexQuad? a b c d = some first ∧ hexQuad? e f g i = some second)
      (high : isHighSurrogate first = true) (low : isLowSurrogate second = true)

namespace StringPart

def text : StringPart → List Char
  | plain c _ => [c]
  | letter escape _ _ => ['\\', escape]
  | code a b c d _ _ _ _ => ['\\', 'u', a, b, c, d]
  | pair a b c d e f g i _ _ _ _ _ =>
      ['\\', 'u', a, b, c, d, '\\', 'u', e, f, g, i]

def char : StringPart → Char
  | plain c _ => c
  | letter _ c _ => c
  | code _ _ _ _ number _ _ _ => charOfCode number
  | pair _ _ _ _ _ _ _ _ first second _ _ _ => joinSurrogates first second

end StringPart

def StringOf (body : List Char) (content : String) : Prop :=
  ∃ parts : List StringPart,
    body = parts.flatMap StringPart.text ∧
      content = String.ofList (parts.map StringPart.char)

theorem readsBody_part (part : StringPart) (opening : List Char)
    {tail : List Char} (hne : tail ≠ []) :
    stringBody opening 0 (part.text ++ tail) =
      consChar part.char (stringBody opening 0 tail) := by
  cases part with
  | plain c unescaped =>
      obtain ⟨hquote, hbackslash, hcontrol⟩ := isUnescaped_iff.mp unescaped
      exact stringBody_plain opening hquote hbackslash hcontrol tail
  | letter letter c stands =>
      have hu : letter ≠ 'u' := by
        rintro rfl
        cases stands
      exact stringBody_simpleEscape opening hu stands tail
  | code a b c d number digits high low =>
      exact stringBody_code opening digits hne (by simp [high])
  | pair a b c d e f g i first second digits high low =>
      exact stringBody_pair opening digits.1 digits.2 high low hne

theorem readsBody_parts (parts : List StringPart) (opening rest : List Char) :
    stringBody opening 0 (parts.flatMap StringPart.text ++ '"' :: rest) =
      .ok (parts.map StringPart.char, rest) := by
  induction parts with
  | nil => rfl
  | cons part more ih =>
      rw [List.flatMap_cons, List.append_assoc, readsBody_part part opening
        (by simp), ih]
      rfl

/-! ## Numbers -/

def IsDigits (digits : List Char) : Prop :=
  digits ≠ [] ∧ ∀ c ∈ digits, Text.isAsciiDigit c = true

instance (digits : List Char) : Decidable (IsDigits digits) :=
  decidable_of_iff (digits ≠ [] ∧ digits.all Text.isAsciiDigit = true)
    (and_congr_right fun _ => List.all_eq_true)

/-- A power of ten: its mark, its sign if it has one, and its digits. -/
structure Power where
  mark : Char
  sign : List Char
  digits : List Char
  mark_mem : mark ∈ ['e', 'E']
  sign_mem : sign ∈ [[], ['+'], ['-']]
  isDigits : IsDigits digits

/-- A number: its sign, its whole part, the digits behind its point and its
power. -/
structure NumberText where
  negative : Bool
  whole : List Char
  fraction : Option (List Char)
  power : Option Power
  isDigits_whole : IsDigits whole
  zero_alone : whole.head? = some '0' → whole = ['0']
  isDigits_fraction : ∀ digits ∈ fraction, IsDigits digits

def fractionText : Option (List Char) → List Char
  | none => []
  | some digits => '.' :: digits

def powerText : Option Power → List Char
  | none => []
  | some power => power.mark :: (power.sign ++ power.digits)

namespace NumberText

variable (number : NumberText)

def unsigned : List Char :=
  number.whole ++ (fractionText number.fraction ++ powerText number.power)

def text : List Char :=
  if number.negative then '-' :: number.unsigned else number.unsigned

/-- The number, unless it is whole and has more digits than can be held. -/
def value : Except ValueFault Value :=
  numberValue number.negative number.whole number.fraction
    (number.power.map fun power => (decide (power.sign = ['-']), power.digits))

end NumberText

/-- What may follow the digits of a number. -/
def NoDigit (rest : List Char) : Prop :=
  ∀ c ∈ rest.head?, Text.isAsciiDigit c = false

/-- The characters that may come right after a value. -/
def endMarks : List Char :=
  [',', ']', '\x7d', ' ', '\t', '\n', '\r']

theorem Follows.head?_mem {rest : List Char} (h : Follows rest) :
    ∀ c ∈ rest.head?, c ∈ endMarks := by
  intro c hc
  have hcases := h c hc
  simp only [isSpace, Bool.or_eq_true, decide_eq_true_eq] at hcases
  simp only [endMarks, List.mem_cons, List.not_mem_nil, or_false]
  tauto

theorem noDigit_of_marks {marks rest : List Char}
    (h : ∀ c ∈ rest.head?, c ∈ marks)
    (hmarks : marks.all (fun c => !Text.isAsciiDigit c) = true) :
    NoDigit rest := by
  intro c hc
  simpa using List.all_eq_true.mp hmarks c (h c hc)

theorem Follows.noDigit {rest : List Char} (h : Follows rest) : NoDigit rest :=
  noDigit_of_marks h.head?_mem (by decide)

theorem digitsAhead_append {digits rest : List Char}
    (h : ∀ c ∈ digits, Text.isAsciiDigit c = true) (hrest : NoDigit rest) :
    digitsAhead (digits ++ rest) = (digits, rest) := by
  have htake : rest.takeWhile Text.isAsciiDigit = [] := by
    cases rest with
    | nil => rfl
    | cons c rest => simp [hrest c rfl]
  have hdrop : rest.dropWhile Text.isAsciiDigit = rest := by
    cases rest with
    | nil => rfl
    | cons c rest => simp [hrest c rfl]
  rw [digitsAhead, List.span_eq_takeWhile_dropWhile,
    List.takeWhile_append_of_pos h, List.dropWhile_append_of_pos h, htake,
    hdrop, List.append_nil]

theorem wholePart?_append (number : NumberText) {rest : List Char}
    (hrest : NoDigit rest) :
    wholePart? (number.whole ++ rest) = some (number.whole, rest) := by
  obtain ⟨hne, hdigits⟩ := number.isDigits_whole
  have hzero := number.zero_alone
  generalize number.whole = whole at *
  cases whole with
  | nil => exact absurd rfl hne
  | cons c more =>
      obtain ⟨hc, hmore⟩ := List.forall_mem_cons.mp hdigits
      by_cases hfirst : c = '0'
      · obtain rfl := hfirst
        obtain rfl : more = [] := by simpa using hzero
        rfl
      · simp [wholePart?, hfirst, hc, digitsAhead_append hmore hrest]

theorem fractionPart_append {fraction : Option (List Char)}
    (h : ∀ digits ∈ fraction, IsDigits digits) {rest : List Char}
    (hrest : NoDigit rest) (hpoint : ∀ c ∈ rest.head?, c ≠ '.') :
    fractionPart (fractionText fraction ++ rest) = (fraction, rest) := by
  cases fraction with
  | none =>
      rw [fractionText, List.nil_append, fractionPart]
      rintro tail rfl
      exact hpoint '.' rfl rfl
  | some digits =>
      obtain ⟨hne, hdigits⟩ := h digits rfl
      obtain ⟨c, more, rfl⟩ := List.exists_cons_of_ne_nil hne
      rw [fractionText, List.cons_append, fractionPart,
        digitsAhead_append hdigits hrest]

theorem exponentPart_append (power : Option Power) {rest : List Char}
    (hrest : Follows rest) :
    exponentPart (powerText power ++ rest) =
      (power.map fun power => (decide (power.sign = ['-']), power.digits),
        rest) := by
  cases power with
  | none =>
      have hmarks : endMarks.all (fun c => !(c = 'e' || c = 'E')) =
          true := by decide
      cases rest with
      | nil => rfl
      | cons c rest =>
          have hc := List.all_eq_true.mp hmarks c (hrest.head?_mem c rfl)
          simp only [Bool.not_eq_true', Bool.or_eq_false_iff,
            decide_eq_false_iff_not] at hc
          simp [powerText, exponentPart, hc]
  | some power =>
      obtain ⟨mark, sign, digits, hmark, hsign, hne, hdigits⟩ := power
      have hahead := digitsAhead_append hdigits hrest.noDigit
      obtain ⟨c, more, rfl⟩ := List.exists_cons_of_ne_nil hne
      have hunsigned : c ≠ '-' ∧ c ≠ '+' := by
        constructor <;> rintro rfl <;>
          exact absurd (hdigits _ List.mem_cons_self) (by decide)
      simp only [List.mem_cons, List.not_mem_nil, or_false] at hmark hsign
      simp only [List.cons_append] at hahead
      obtain rfl | rfl | rfl := hsign <;>
        simp [powerText, exponentPart, hmark, hahead, hunsigned]

theorem head?_powerText_mem (power : Option Power) {rest : List Char}
    (hrest : Follows rest) :
    ∀ c ∈ (powerText power ++ rest).head?, c ∈ ['e', 'E'] ++ endMarks := by
  intro c hc
  cases power with
  | none => exact List.mem_append_right _ (hrest.head?_mem c hc)
  | some power =>
      obtain rfl := Option.some.inj hc
      exact List.mem_append_left _ power.mark_mem

/-- A number is read up to its end: no part of it can be longer, for what
follows is no digit and no mark of a further part. -/
theorem number_append (number : NumberText) {content : Value}
    (h : number.value = .ok content) {rest : List Char} (hrest : Follows rest) :
    Json.number (number.text ++ rest) = .ok (content, rest) := by
  have hmarks := head?_powerText_mem number.power hrest
  have hpower : NoDigit (powerText number.power ++ rest) :=
    noDigit_of_marks hmarks (by decide)
  have hpoint : ∀ c ∈ (powerText number.power ++ rest).head?, c ≠ '.' := by
    rintro _ hc rfl
    exact absurd (hmarks '.' hc) (by decide)
  have hfraction : NoDigit
      (fractionText number.fraction ++ (powerText number.power ++ rest)) := by
    cases number.fraction with
    | none => exact hpower
    | some digits => simp [NoDigit, fractionText, Text.isAsciiDigit]
  have hwhole := wholePart?_append number hfraction
  have hparts := fractionPart_append number.isDigits_fraction hpower hpoint
  have hexponent := exponentPart_append number.power hrest
  unfold NumberText.value at h
  unfold Json.number NumberText.text NumberText.unsigned
  cases hnegative : number.negative with
  | true =>
      rw [hnegative] at h
      simp only [if_true, List.cons_append, List.append_assoc, hwhole, hparts,
        hexponent, h]
  | false =>
      rw [hnegative] at h
      obtain ⟨c, more, hdigits⟩ :=
        List.exists_cons_of_ne_nil number.isDigits_whole.1
      have hc := number.isDigits_whole.2 c (by simp [hdigits])
      have hminus : c ≠ '-' := by
        rintro rfl
        exact absurd hc (by decide)
      rw [hdigits, List.cons_append] at hwhole
      rw [hdigits] at h
      simp [hdigits, hminus, hwhole, hparts, hexponent, h]

theorem ne_of_digit {c d : Char} (hc : Text.isAsciiDigit c = true)
    (hd : Text.isAsciiDigit d = false) : c ≠ d := by
  rintro rfl
  simp [hc] at hd

theorem isSpace_digit {c : Char} (hc : Text.isAsciiDigit c = true) :
    isSpace c = false := by
  have hne {d : Char} (hd : Text.isAsciiDigit d = false) := ne_of_digit hc hd
  simp [isSpace, hne (d := ' ') (by decide), hne (d := '\t') (by decide),
    hne (d := '\n') (by decide), hne (d := '\r') (by decide)]

theorem value_plain {c : Char} (hquote : c ≠ '"') (hbracket : c ≠ '[')
    (hbrace : c ≠ '\x7b') (fuel : Nat) (rest : List Char) :
    value (fuel + 1) (c :: rest) = plainValue (c :: rest) := by
  simp [value, hquote, hbracket, hbrace]

theorem plainValue_digit {c : Char} (hc : Text.isAsciiDigit c = true)
    (rest : List Char) :
    plainValue (c :: rest) = Json.number (c :: rest) := by
  have hne {d : Char} (hd : Text.isAsciiDigit d = false) :=
    (ne_of_digit hc hd).symm
  have hnone : namedValue? (c :: rest) = none := by
    simp [namedValue?, namedValues, Text.stripInitial?,
      hne (d := 'n') (by decide), hne (d := 't') (by decide),
      hne (d := 'f') (by decide), hne (d := 'N') (by decide),
      hne (d := 'I') (by decide), hne (d := '-') (by decide)]
  rw [plainValue, hnone]

theorem plainValue_minus {c : Char} (hc : Text.isAsciiDigit c = true)
    (rest : List Char) :
    plainValue ('-' :: c :: rest) = Json.number ('-' :: c :: rest) := by
  have hne : 'I' ≠ c := (ne_of_digit hc (by decide)).symm
  have hnone : namedValue? ('-' :: c :: rest) = none := by
    simp [namedValue?, namedValues, Text.stripInitial?, hne]
  rw [plainValue, hnone]

theorem readsInside_number (number : NumberText) {content : Value}
    (h : number.value = .ok content) : ReadsInside number.text content := by
  obtain ⟨c, more, hwhole⟩ := List.exists_cons_of_ne_nil number.isDigits_whole.1
  have hc := number.isDigits_whole.2 c (by simp [hwhole])
  have hunsigned : number.unsigned =
      c :: (more ++ (fractionText number.fraction ++
        powerText number.power)) := by
    rw [NumberText.unsigned, hwhole, List.cons_append]
  constructor
  · unfold NumberText.text
    cases number.negative with
    | true => exact ⟨'-', _, rfl, by decide, by decide, by decide⟩
    | false =>
        exact ⟨c, _, hunsigned, isSpace_digit hc, ne_of_digit hc (by decide),
          ne_of_digit hc (by decide)⟩
  · intro fuel rest hfuel hrest
    have hnumber := number_append number h hrest
    have hlength : number.unsigned.length ≤ number.text.length := by
      unfold NumberText.text
      split <;> simp
    obtain ⟨fuel, rfl⟩ : ∃ previous, fuel = previous + 1 := by
      rw [hunsigned, List.length_cons] at hlength
      exact ⟨fuel - 1, by omega⟩
    unfold NumberText.text at hnumber ⊢
    cases hnegative : number.negative with
    | true =>
        simp only [hnegative, if_true, hunsigned, List.cons_append] at hnumber ⊢
        rw [value_plain (by decide) (by decide) (by decide),
          plainValue_minus hc, hnumber]
    | false =>
        simp only [hnegative, Bool.false_eq_true, if_false, hunsigned,
          List.cons_append]
          at hnumber ⊢
        rw [value_plain (ne_of_digit hc (by decide))
          (ne_of_digit hc (by decide))
          (ne_of_digit hc (by decide)), plainValue_digit hc, hnumber]

/-! ## Values -/

/-- A text that writes a value. -/
inductive Written : List Char → Value → Prop
  | name {named : List Char × Value} (h : named ∈ namedValues) :
    Written named.1 named.2
  | number (number : NumberText) {content : Value}
    (h : number.value = .ok content) :
      Written number.text content
  | string {body : List Char} {content : String} (h : StringOf body content) :
      Written ('"' :: body ++ ['"']) (.text content)
  | list {space : List Char} {items : List Item} (hspace : IsLayout space)
      (h : ∀ item ∈ items, Written item.text item.content) :
      Written (listText space items) (.list (items.map Item.content))
  | object {space : List Char} {fields : List Field} (hspace : IsLayout space)
      (hkeys : ∀ field ∈ fields, StringOf field.body field.key)
      (h : ∀ field ∈ fields, Written field.item.text field.item.content) :
      Written (objectText space fields) (.ofFields (fields.map Field.value))

theorem StringOf.readsBody {body : List Char} {content : String}
    (h : StringOf body content) :
    ReadsBody body content := by
  obtain ⟨parts, rfl, rfl⟩ := h
  intro opening rest
  rw [readsBody_parts, String.toList_ofList]

theorem exists_part (c : Char) :
    ∃ part : StringPart, part.text = stringChar c ∧ part.char = c := by
  cases hescape : requiredEscape? c with
  | none =>
      obtain ⟨hquote, hbackslash, -, hcontrol⟩ :=
        requiredEscape?_eq_none hescape
      refine ⟨.plain c
        (isUnescaped_iff.mpr ⟨hquote, hbackslash, hcontrol⟩), ?_, rfl⟩
      rw [stringChar, hescape]
      rfl
  | some escape =>
      rw [stringChar, hescape]
      obtain ⟨letter, -, -, hletter, rfl⟩ | ⟨hcontrol, rfl⟩ :=
        requiredEscape?_eq_some hescape
      · exact ⟨.letter letter c hletter, rfl, rfl⟩
      · obtain ⟨a, b, d, e, hdigits, hquad⟩ :=
          exists_hexQuad? (show c.toNat < 0x10000 by omega)
        have hhigh : isHighSurrogate c.toNat = false := by
          simp only [isHighSurrogate, Bool.and_eq_false_iff,
            decide_eq_false_iff_not]
          omega
        have hlow : isLowSurrogate c.toNat = false := by
          simp only [isLowSurrogate, Bool.and_eq_false_iff,
            decide_eq_false_iff_not]
          omega
        refine ⟨.code a b d e _ hquad hhigh hlow, ?_, charOfCode_toNat c⟩
        rw [codeUnitEscape, hdigits]
        rfl

/-- The writer escapes what has to be. -/
theorem stringOf_written (content : String) :
    StringOf (content.toList.flatMap stringChar) content := by
  choose part htext hchar using exists_part
  refine ⟨content.toList.map part, ?_, ?_⟩
  · rw [List.flatMap_map]
    simp only [htext]
  · rw [List.map_map]
    simp only [Function.comp_def, hchar, List.map_id', String.ofList_toList]

theorem reads_named {named : List Char × Value} (h : named ∈ namedValues) :
    Reads named.1 named.2 := by
  simp only [namedValues, List.mem_cons, List.not_mem_nil, or_false] at h
  constructor
  · obtain rfl | rfl | rfl | rfl | rfl | rfl := h <;>
      exact ⟨_, _, rfl, by decide, by decide, by decide⟩
  · intro fuel rest hfuel
    cases fuel with
    | zero => obtain rfl | rfl | rfl | rfl | rfl | rfl := h <;> simp at hfuel
    | succ fuel => obtain rfl | rfl | rfl | rfl | rfl | rfl := h <;> rfl

theorem Written.readsInside {text : List Char} {content : Value}
    (h : Written text content) :
    ReadsInside text content := by
  induction h with
  | name h => exact (reads_named h).inside
  | number number h => exact readsInside_number number h
  | string h => exact h.readsBody.reads.inside
  | list hspace _ ih => exact (reads_listText hspace ih).inside
  | object hspace hkeys _ ih =>
      exact (reads_objectText hspace
        (fun field hfield => (hkeys field hfield).readsBody) ih).inside

theorem Written.decodeChars_eq {text : List Char} {content : Value}
    (h : Written text content) :
    decodeChars text = .ok content := by
  simpa using h.readsInside.decodeChars_eq isLayout_nil isLayout_nil

/-! ## Written items -/

namespace Item

/-- An item whose text writes its value. -/
def IsWritten (item : Item) : Prop :=
  Written item.text item.content

def ofText (content : String) : Item :=
  .bare (encodeString content, .text content)

def ofItems (space : List Char) (items : List Item) : Item :=
  .bare (listText space items, .list (items.map content))

def ofFields (space : List Char) (fields : List (String × Item)) : Item :=
  let fields :=
    fields.map fun field => Field.bare (field.1, field.2.text, field.2.content)
  .bare (objectText space fields, .ofFields (fields.map Field.value))

namespace IsWritten

theorem ofText (content : String) : (Item.ofText content).IsWritten :=
  .string (stringOf_written content)

theorem ofItems {space : List Char} {items : List Item}
    (hspace : IsLayout space) (h : ∀ item ∈ items, item.IsWritten) :
    (Item.ofItems space items).IsWritten :=
  .list hspace h

theorem ofFields {space : List Char} {fields : List (String × Item)}
    (hspace : IsLayout space) (h : ∀ field ∈ fields, field.2.IsWritten) :
    (Item.ofFields space fields).IsWritten :=
  .object hspace
    (List.forall_mem_map.mpr fun field _ => stringOf_written field.1)
    (List.forall_mem_map.mpr h)

end IsWritten

end Item

end TraitIndex.Json
