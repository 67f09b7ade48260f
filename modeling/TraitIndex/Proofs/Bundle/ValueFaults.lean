import TraitIndex.Proofs.Script.Reading
import TraitIndex.Proofs.Sidebar.Reading
import TraitIndex.Proofs.Structured.Descriptors
import TraitIndex.Yaml.Construct

/-!
# Values that cannot be used

Loading ends at a value that cannot be used as what it should be.  Each reader
has such values of its own: a number with too many digits for all of them, a
sidebar kind that holds one value that is no collection, and in YAML a date that
does not exist.
-/

namespace TraitIndex

/-! ## Sidebars -/

/-- Values that count as given and list nothing. -/
inductive Value.IsGivenScalar : Value → Prop
  | truth : IsGivenScalar (.bool true)
  | int {number : Int} (h : number ≠ 0) : IsGivenScalar (.int number)
  | float {number : Number.Binary64} (h : number.isZero = false) :
      IsGivenScalar (.float number)

theorem Value.IsGivenScalar.isTruthy {value : Value} (h : value.IsGivenScalar) :
    value.isTruthy = true := by
  cases h with
  | truth => rfl
  | int h => simpa [Value.isTruthy] using h
  | float h => simpa [Value.isTruthy] using h

namespace Sidebar

open Value

variable {entries : Value}

theorem itemsOfValue_of_not_given (h : entries.isTruthy = false) :
    itemsOfValue entries = .ok [] := by
  rw [itemsOfValue, if_neg (Bool.eq_false_iff.mp h)]
  rfl

theorem itemsOfValue_of_no_elements (h : entries.isTruthy = true)
    {cause : ValueFault} (helements : entries.elements = .error cause) :
    itemsOfValue entries = .error cause := by
  rw [itemsOfValue, if_pos h, helements]
  rfl

theorem exists_itemsOfValue (h : entries.isTruthy = true) {values : List Value}
    (helements : entries.elements = .ok values)
    (hvalues : ∀ value ∈ values, IsJson value) :
    ∃ items, itemsOfValue entries = .ok items := by
  have hitems : values.mapM itemOfValue = .ok (values.map itemOf?) :=
    mapM_eq_ok_map fun value hvalue => itemOfValue_eq (hvalues value hvalue)
  refine ⟨(values.map itemOf?).filterMap id, ?_⟩
  rw [itemsOfValue, if_pos h, helements]
  change values.mapM itemOfValue >>= _ = _
  rw [hitems]
  rfl

/-- The items under a kind can be listed unless there is one value that is given
and is no collection. -/
theorem itemsOfValue_cases (h : IsJson entries) :
    (entries.IsGivenScalar ∧ itemsOfValue entries =
        .error (.notIterable entries.kindName)) ∨
      (¬entries.IsGivenScalar ∧ ∃ items, itemsOfValue entries = .ok items) := by
  cases hgiven : entries.isTruthy with
  | false =>
      refine .inr ⟨fun hscalar => ?_, [], itemsOfValue_of_not_given hgiven⟩
      exact absurd (hgiven.symm.trans hscalar.isTruthy) Bool.false_ne_true
  | true =>
      cases h with
      | null => cases hgiven
      | bool truth =>
          obtain rfl : truth = true := hgiven
          exact .inl ⟨.truth, itemsOfValue_of_no_elements rfl rfl⟩
      | int =>
          have hne := bne_iff_ne.mp hgiven
          exact .inl ⟨.int hne, itemsOfValue_of_no_elements hgiven rfl⟩
      | float number =>
          rw [Value.isTruthy, Bool.not_eq_true'] at hgiven
          exact .inl ⟨.float hgiven, itemsOfValue_of_no_elements
            (by simp [hgiven, Value.isTruthy])
            rfl⟩
      | text content =>
          exact .inr ⟨by rintro ⟨⟩, exists_itemsOfValue hgiven rfl
            (List.forall_mem_map.mpr fun c _ => .text (String.singleton c))⟩
      | list hitems =>
          exact .inr ⟨by rintro ⟨⟩, exists_itemsOfValue hgiven rfl hitems⟩
      | mapping hkeys =>
          refine .inr ⟨by rintro ⟨⟩, exists_itemsOfValue hgiven rfl ?_⟩
          refine List.forall_mem_map.mpr fun field hfield => ?_
          obtain ⟨name, hname⟩ := exists_of_isText (hkeys field hfield)
          exact hname ▸ .text name

def kindOfField (field : Value × Value) :
    Except Fault (String × List SidebarItem) := do
  let items ← liftValue (itemsOfValue field.2)
  return (field.1.toText, items)

theorem kindOfField_cases {field : Value × Value} (h : IsJson field.2) :
    (field.2.IsGivenScalar ∧ ∃ cause,
        kindOfField field = .error (.value cause)) ∨
      (¬field.2.IsGivenScalar ∧ ∃ kind, kindOfField field = .ok kind) := by
  unfold kindOfField
  obtain ⟨hscalar, hitems⟩ | ⟨hscalar, items, hitems⟩ := itemsOfValue_cases h
  · rw [hitems]
    exact .inl ⟨hscalar, _, rfl⟩
  · rw [hitems]
    exact .inr ⟨hscalar, _, rfl⟩

theorem mapM_kindOfField_value_iff {fields : List (Value × Value)}
    (hjson : ∀ field ∈ fields, IsJson field.2) (crate : String) :
    (∃ cause, (fields.mapM kindOfField >>= fun kinds =>
      .ok (SidebarIndex.mk crate (Assoc.ofList kinds))) =
        .error (.value cause)) ↔
      ∃ field ∈ fields, field.2.IsGivenScalar := by
  cases hread : fields.mapM kindOfField with
  | ok kinds =>
      refine iff_of_false nofun ?_
      rintro ⟨field, hfield, hscalar⟩
      obtain ⟨kind, -, hkind⟩ :=
        exists_of_mem_of_forall₂ (forall₂_of_mapM_eq_ok hread) hfield
      obtain ⟨-, cause, hcause⟩ | ⟨hnot, -⟩ :=
        kindOfField_cases (hjson field hfield)
      · cases hkind.symm.trans hcause
      · exact hnot hscalar
  | error fault =>
      obtain ⟨field, hfield, hfault⟩ := exists_of_mapM_eq_error hread
      obtain ⟨hscalar, cause, hcause⟩ | ⟨-, kind, hkind⟩ :=
        kindOfField_cases (hjson field hfield)
      · obtain rfl := Except.error.inj (hcause.symm.trans hfault)
        exact iff_of_true ⟨cause, rfl⟩ ⟨field, hfield, hscalar⟩
      · cases hkind.symm.trans hfault

/-- A sidebar script ends in a value fault when a number in it has too many
digits, or when a kind holds something that is given and is no collection. -/
theorem read_value_iff (text crate : String) :
    (∃ cause, read text crate = .error (.value cause)) ↔
      ∃ argument, payload? text.toList = some argument ∧
        ((∃ cause, Json.decodeChars argument = .error (.value cause)) ∨
          ∃ fields, Json.decodeChars argument = .ok (.mapping fields) ∧
            ∃ field ∈ fields, field.2.IsGivenScalar) := by
  unfold read
  cases hpayload : payload? text.toList with
  | none => simp
  | some argument =>
      simp only [Option.some.injEq, exists_eq_left']
      cases hdecoded : Json.decodeChars argument with
      | error fault => cases fault <;> simp
      | ok content =>
          cases Json.isJson_of_decodeChars hdecoded with
          | @mapping fields _ hfields =>
              refine Iff.trans (mapM_kindOfField_value_iff hfields crate)
                ⟨fun h => .inr ⟨fields, rfl, h⟩, ?_⟩
              rintro (⟨cause, hcause⟩ | ⟨fields', hfields', h⟩)
              · cases hcause
              · cases hfields'
                exact h
          | _ => simp

end Sidebar

/-! ## Scripts and structured files of JSON -/

/-- A script ends in a value fault only when a number in it has too many digits:
in one of its literals, or in a reference to a character. -/
theorem Script.exists_assignment_of_read_value {text traitName source : String}
    {cause : ValueFault}
    (h : read text traitName source = .error (.value cause)) :
    ∃ assignment ∈ assignments text.toList, ¬assignment.WithinLimits := by
  by_contra hnone
  push Not at hnone
  obtain ⟨format, hformat⟩ := format_of_read hnone h
  cases hformat

namespace Structured

theorem exists_ofValue {fields : List (Value × Value)}
    (h : Value.IsJson (.mapping fields)) (source defaultTrait : String) :
    ∃ fragment, ofValue (.mapping fields) source defaultTrait =
      .ok fragment := by
  have hentries : ∃ entries, fields.mapM (entryOfField defaultTrait) =
      .ok entries := by
    cases h with
    | mapping hkeys hjson =>
        have hentry : ∀ field ∈ fields, ∃ entry,
            entryOfField defaultTrait field = .ok entry := by
          rintro ⟨key, value⟩ hfield
          obtain ⟨name, rfl⟩ := Value.exists_of_isText (hkeys _ hfield)
          exact ⟨_, @entryOfField_eq (name, value)
            (hjson _ hfield) defaultTrait⟩
        obtain ⟨entries, hentries⟩ := exists_forall₂ hentry
        exact ⟨entries, mapM_eq_ok_of_forall₂ hentries⟩
  obtain ⟨entries, hentries⟩ := hentries
  unfold ofValue
  simp only [hentries]
  exact ⟨_, rfl⟩

/-- A structured file of JSON ends in a value fault when a number in it has too
many digits. -/
theorem read_json_value_iff (text source : String) :
    (∃ cause, read text source jsonFormat = .error (.value cause)) ↔
      ∃ cause, Json.decode text = .error (.value cause) := by
  unfold read decode
  rw [if_pos rfl]
  cases hdecoded : Json.decode text with
  | error fault => cases fault <;> simp [bind, Except.bind]
  | ok content =>
      refine iff_of_false ?_ nofun
      rintro ⟨cause, hcause⟩
      change ofValue content source "" = _ at hcause
      have hjson := Json.isJson_of_decodeChars hdecoded
      cases content with
      | mapping fields =>
          obtain ⟨fragment, hfragment⟩ := exists_ofValue hjson source ""
          cases hfragment.symm.trans hcause
      | _ => cases hcause

end Structured

/-! ## Dates of YAML -/

structure Date.Exists (year month day : Nat) : Prop where
  year_mem : 1 ≤ year ∧ year ≤ 9999
  month_mem : 1 ≤ month ∧ month ≤ 12
  day_mem : 1 ≤ day ∧ day ≤ daysInMonth year month

theorem Date.make_cases (year month day : Nat) :
    (Exists year month day ∧ make year month day = .ok ⟨year, month, day⟩) ∨
      (¬Exists year month day ∧ ∃ cause,
        make year month day = .error cause) := by
  unfold make
  simp only [Bool.or_eq_true, decide_eq_true_eq]
  split
  · next h =>
      exact .inr ⟨fun hexists => by have := hexists.year_mem; omega, _, rfl⟩
  split
  · next h =>
      exact .inr ⟨fun hexists => by have := hexists.month_mem; omega, _, rfl⟩
  split
  · next h =>
      exact .inr ⟨fun hexists => by have := hexists.day_mem; omega, _, rfl⟩
  · exact .inl ⟨⟨by omega, by omega, by omega⟩, rfl⟩

/-- The numbers of a time of day, within a day of universal time if they say how
far. -/
structure Timestamp.ClockExists (hour minute second : Nat)
    (offset : Option Int) : Prop where
  hour_le : hour ≤ 23
  minute_le : minute ≤ 59
  second_le : second ≤ 59
  offset_within : ∀ seconds ∈ offset, -86400 < seconds ∧ seconds < 86400

theorem checkedOffset_eq_ok {seconds : Int}
    (h : -86400 < seconds ∧ seconds < 86400) :
    checkedOffset seconds = .ok seconds := by
  refine if_pos ?_
  rw [Bool.and_eq_true, decide_eq_true_iff, decide_eq_true_iff]
  exact h

theorem checkedOffset_eq_error {seconds : Int}
    (h : ¬(-86400 < seconds ∧ seconds < 86400)) :
    checkedOffset seconds = .error (.offset seconds) := by
  refine if_neg ?_
  rw [Bool.and_eq_true, decide_eq_true_iff, decide_eq_true_iff]
  exact h

/-- What is made of a date and the numbers of a clock, whatever the offset. -/
theorem Timestamp.make_date_error_iff
    (year month day hour minute second microsecond : Nat)
    (given : Option Int) :
    (∃ cause, (do
        let date ← Date.make year month day
        if 23 < hour then .error .hour
        else if 59 < minute then .error .minute
        else if 59 < second then .error .second
        else .ok (Timestamp.mk date hour minute second microsecond given) :
          Except CalendarFault Timestamp) = .error cause) ↔
      ¬(Date.Exists year month day ∧ hour ≤ 23 ∧ minute ≤ 59 ∧
        second ≤ 59) := by
  obtain ⟨hdate, hmade⟩ | ⟨hdate, cause, hmade⟩ :=
    Date.make_cases year month day
  · rw [hmade]
    simp only [bind, Except.bind, hdate, true_and]
    split
    · exact iff_of_true ⟨_, rfl⟩ (by omega)
    split
    · exact iff_of_true ⟨_, rfl⟩ (by omega)
    split
    · exact iff_of_true ⟨_, rfl⟩ (by omega)
    · exact iff_of_false nofun (by omega)
  · rw [hmade]
    exact iff_of_true ⟨cause, rfl⟩ fun h => hdate h.1

theorem Timestamp.make_error_iff
    (year month day hour minute second microsecond : Nat)
    (offset : Option Int) :
    (∃ cause, make year month day hour minute second microsecond offset =
        .error cause) ↔
      ¬(Date.Exists year month day ∧
        ClockExists hour minute second offset) := by
  cases offset with
  | none =>
      refine (make_date_error_iff _ _ _ _ _ _ _ none).trans
        (not_congr (and_congr_right fun _ => ?_))
      exact ⟨fun ⟨h, m, s⟩ => ⟨h, m, s, nofun⟩,
        fun h => ⟨h.hour_le, h.minute_le, h.second_le⟩⟩
  | some seconds =>
      by_cases hwithin : -86400 < seconds ∧ seconds < 86400
      · simp only [make, checkedOffset_eq_ok hwithin]
        refine (make_date_error_iff _ _ _ _ _ _ _ (some seconds)).trans
          (not_congr (and_congr_right fun _ => ?_))
        refine ⟨fun ⟨h, m, s⟩ => ⟨h, m, s, ?_⟩,
          fun h => ⟨h.hour_le, h.minute_le, h.second_le⟩⟩
        rintro _ ⟨⟩
        exact hwithin
      · simp only [make, checkedOffset_eq_error hwithin]
        exact iff_of_true ⟨_, rfl⟩ fun h => hwithin (h.2.offset_within _ rfl)

namespace Yaml

structure TimestampText.Exists (text : TimestampText) : Prop where
  date : Date.Exists (numberOf text.year) (numberOf text.month)
    (numberOf text.day)
  clock : ∀ clock ∈ text.clock, Timestamp.ClockExists (numberOf clock.hour)
    (numberOf clock.minute) (numberOf clock.second) (clock.zone.map Zone.offset)

theorem valueOfTimestamp_error_iff (text : TimestampText) :
    (∃ cause, valueOfTimestamp text = .error cause) ↔ ¬text.Exists := by
  obtain ⟨year, month, day, clock⟩ := text
  cases clock with
  | none =>
      obtain ⟨hdate, hmade⟩ | ⟨hdate, cause, hmade⟩ :=
        Date.make_cases (numberOf year) (numberOf month) (numberOf day)
      · refine iff_of_false ?_ (not_not.mpr ⟨hdate, nofun⟩)
        rintro ⟨cause, hcause⟩
        simp only [valueOfTimestamp, hmade] at hcause
        cases hcause
      · refine iff_of_true ⟨cause, ?_⟩ fun h => hdate h.date
        simp only [valueOfTimestamp, hmade]
        rfl
  | some clock =>
      have hmake := Timestamp.make_error_iff (numberOf year) (numberOf month)
        (numberOf day) (numberOf clock.hour) (numberOf clock.minute)
        (numberOf clock.second) (microseconds clock.fraction)
        (clock.zone.map Zone.offset)
      have hexists : TimestampText.Exists ⟨year, month, day, some clock⟩ ↔
          Date.Exists (numberOf year) (numberOf month) (numberOf day) ∧
            Timestamp.ClockExists (numberOf clock.hour) (numberOf clock.minute)
              (numberOf clock.second) (clock.zone.map Zone.offset) :=
        ⟨fun h => ⟨h.date, h.clock clock rfl⟩,
          fun h => ⟨h.1, by rintro _ ⟨⟩; exact h.2⟩⟩
      rw [hexists, ← hmake]
      simp only [valueOfTimestamp]
      generalize Timestamp.make (numberOf year) (numberOf month) (numberOf day)
        (numberOf clock.hour) (numberOf clock.minute) (numberOf clock.second)
        (microseconds clock.fraction) (clock.zone.map Zone.offset) = made
      cases made with
      | ok time => exact iff_of_false nofun nofun
      | error cause => exact iff_of_true ⟨cause, rfl⟩ ⟨cause, rfl⟩

example : (timestampText? "2001-02-30".toList).map valueOfTimestamp =
    some (.error .day) :=
  rfl

/-- A scalar written as a date, or as a date and a time, ends in a value fault
exactly when the calendar or the day does not have it. -/
theorem Builder.initial_timestamp_iff {graph : Graph} {id : NodeId}
    {text : String} {found : TimestampText}
    (htag : (nodeAt graph id).tag = .timestamp)
    (hcontent : (nodeAt graph id).content = .scalar text)
    (hfound : timestampText? (Text.dropFinalLineFeed text.toList) =
      some found) :
    (∃ cause, initial graph id = .error (.value cause)) ↔ ¬found.Exists := by
  have htext : scalarText graph (graph.size + 1) id = .ok text := by
    rw [scalarText, hcontent]
  have hscalar : isMapping graph id = false := by
    rw [isMapping, hcontent]
  rw [← valueOfTimestamp_error_iff]
  unfold initial
  rw [htag]
  simp only [htext, hscalar, valueOfScalar, timestampOfText, hfound, bind,
    Except.bind, liftFault]
  cases valueOfTimestamp found with
  | ok value => exact iff_of_false nofun nofun
  | error cause => exact iff_of_true ⟨_, rfl⟩ ⟨cause, rfl⟩

end Yaml

end TraitIndex
