import TraitIndex.Config
import TraitIndex.Proofs.Outcome

/-!
# What the values of a configuration stand for

The docs root is a text, the expected count is a number or nothing, and the
level is named by a text in letters of either case.  For each of them all values
are sorted out: into those that stand for something, and those that are refused
or cannot even be refused.
-/

namespace TraitIndex.Config

/-! ## How many fragments are expected -/

/-- What a value counts as: a number without its fraction, a truth value as 0 or
1, and a text or bytes by what they write. -/
inductive CountsAs : Value → Int → Prop
  | bool (truth : Bool) : CountsAs (.bool truth) (if truth then 1 else 0)
  | int (number : Int) : CountsAs (.int number) number
  | float {number : Number.Binary64} {ratio : Number.Ratio}
    (h : number.ratio? = some ratio) :
      CountsAs (.float number) ratio.truncate
  | text {text : String} {number : Int}
    (h : Number.whole 10 text = .ok number) :
      CountsAs (.text text) number
  | bytes {bytes : List UInt8} {number : Int}
    (hascii : ∀ byte ∈ bytes, byte < 0x80)
      (h : Number.whole 10
        (String.ofList (bytes.map fun byte => Char.ofNat byte.toNat)) =
        .ok number) : CountsAs (.bytes bytes) number

/-- What is expected: nothing is said, or a number that is not negative. -/
inductive Expects : Value → Option Int → Prop
  | null : Expects .null none
  | blank : Expects (.text "") none
  | count {value : Value} {number : Int} (h : CountsAs value number)
    (hnumber : 0 ≤ number) :
      Expects value (some number)

/-- What can be wrong with an expected number.  The first two are refused; an
infinite number is not, nor is one that is too long to be shown. -/
inductive NoCount : Value → Fault → Prop
  | notWhole {value : Value} (hnull : value ≠ .null) (hblank : value ≠ .text "")
      (hinfinite : ∀ negative, value ≠ .float (.infinite negative))
      (hcount : ∀ number, ¬CountsAs value number)
      (hshowable : value.isShowable = true) :
      NoCount value (.config (.notWhole value.toQuoted))
  | negative {value : Value} {number : Int} (h : CountsAs value number)
    (hnumber : number < 0)
      (hshowable : (Value.int number).isShowable = true) :
      NoCount value (.config (.negative number))
  | infinite {value : Value} {negative : Bool}
    (h : value = .float (.infinite negative)) :
      NoCount value .infiniteCount
  | longValue {value : Value} (hcount : ∀ number, ¬CountsAs value number)
      (hshowable : value.isShowable = false) : NoCount value
      (.value .longNumber)
  | longNegative {value : Value} {number : Int} (h : CountsAs value number)
    (hnumber : number < 0)
      (hshowable : (Value.int number).isShowable = false) : NoCount value
      (.value .longNumber)

theorem Expects.nonneg {value : Value} {number : Int}
    (h : Expects value (some number)) :
    0 ≤ number := by
  cases h with
  | count _ hnumber => exact hnumber

theorem CountsAs.ne_null {value : Value} {number : Int}
    (h : CountsAs value number) :
    value ≠ .null := by
  rintro rfl
  cases h

theorem CountsAs.ne_blank {value : Value} {number : Int}
    (h : CountsAs value number) :
    value ≠ .text "" := by
  rintro rfl
  cases h with
  | text h => cases h

theorem CountsAs.ne_infinite {value : Value} {number : Int}
    (h : CountsAs value number) (negative : Bool) :
    value ≠ .float (.infinite negative) := by
  rintro rfl
  cases h with
  | float h => cases h

theorem wholeOfBytes_eq_some_iff {bytes : List UInt8} {number : Int} :
    wholeOfBytes bytes = some number ↔ CountsAs (.bytes bytes) number := by
  have hascii : bytes.all (· < 0x80) = true ↔ ∀ byte ∈ bytes,
      byte < 0x80 := by simp
  rw [wholeOfBytes]
  constructor
  · intro h
    split at h
    · next hbytes => exact .bytes (hascii.mp hbytes) (toOption_eq_some_iff.mp h)
    · cases h
  · intro h
    cases h with
    | bytes hbytes hwhole =>
        rw [if_pos (hascii.mpr hbytes), toOption_eq_some_iff, hwhole]

/-- A value that is not infinite counts as a number or as none. -/
theorem exists_wholeOfValue {value : Value}
    (hinfinite : ∀ negative, value ≠ .float (.infinite negative)) :
    ∃ count, wholeOfValue value = .ok count ∧
      ∀ number, count = some number ↔ CountsAs value number := by
  cases value with
  | bool truth =>
      refine ⟨_, rfl, fun number => ⟨fun h => ?_, fun h => ?_⟩⟩
      · obtain rfl := Option.some.inj h
        exact .bool truth
      · cases h
        rfl
  | int whole =>
      refine ⟨_, rfl, fun number => ⟨fun h => ?_, fun h => ?_⟩⟩
      · obtain rfl := Option.some.inj h
        exact .int whole
      · cases h
        rfl
  | float float =>
      refine ⟨float.ratio?.map (·.truncate), ?_, fun number =>
        ⟨fun h => ?_, fun h => ?_⟩⟩
      · cases float with
        | infinite negative => exact absurd rfl (hinfinite negative)
        | finite negative mantissa exponent => rfl
        | nan => rfl
      · obtain ⟨ratio, hratio, rfl⟩ := Option.map_eq_some_iff.mp h
        exact .float hratio
      · cases h with
        | float hratio => rw [hratio, Option.map_some]
  | text text =>
      refine ⟨_, rfl, fun number =>
        ⟨fun h => .text (toOption_eq_some_iff.mp h), fun h => ?_⟩⟩
      cases h with
      | text h => exact toOption_eq_some_iff.mpr h
  | bytes bytes => exact ⟨_, rfl, fun number => wholeOfBytes_eq_some_iff⟩
  | null | date | time | list | pair | set | mapping | enclosing =>
      exact ⟨none, rfl, fun number => iff_of_false nofun nofun⟩

theorem expectedOfValue_eq {value : Value} (hnull : value ≠ .null)
    (hblank : value ≠ .text "") :
    expectedOfValue value = wholeOfValue value >>= fun count =>
      match count with
      | none =>
          if value.isShowable then .error (.config (.notWhole value.toQuoted))
          else .error (.value .longNumber)
      | some number =>
          if 0 ≤ number then .ok (some number)
          else if (Value.int number).isShowable then
            .error (.config (.negative number))
          else .error (.value .longNumber) := by
  unfold expectedOfValue
  split
  · exact absurd rfl hnull
  · exact absurd rfl hblank
  · rfl

theorem expectedOfValue_of_countsAs {value : Value} {number : Int}
    (h : CountsAs value number) :
    expectedOfValue value =
      if 0 ≤ number then .ok (some number)
      else if (Value.int number).isShowable then
        .error (.config (.negative number))
      else .error (.value .longNumber) := by
  obtain ⟨count, hcount, hnumber⟩ := exists_wholeOfValue h.ne_infinite
  obtain rfl := (hnumber number).mpr h
  rw [expectedOfValue_eq h.ne_null h.ne_blank, hcount]
  rfl

theorem expectedOfValue_of_not_countsAs {value : Value} (hnull : value ≠ .null)
    (hblank : value ≠ .text "")
    (hinfinite : ∀ negative, value ≠ .float (.infinite negative))
    (h : ∀ number, ¬CountsAs value number) :
    expectedOfValue value =
      if value.isShowable then .error (.config (.notWhole value.toQuoted))
      else .error (.value .longNumber) := by
  obtain ⟨count, hcount, hnumber⟩ := exists_wholeOfValue hinfinite
  obtain rfl : count = none :=
    Option.eq_none_iff_forall_ne_some.mpr fun number hsome =>
      h number ((hnumber number).mp hsome)
  rw [expectedOfValue_eq hnull hblank, hcount]
  rfl

theorem settles_expectedOfValue (value : Value) :
    Settles (expectedOfValue value) (Expects value) (NoCount value) := by
  apply Settles.of_total
  case hok =>
    rintro count (_ | _ | ⟨h, hnumber⟩)
    · rfl
    · rfl
    · rw [expectedOfValue_of_countsAs h, if_pos hnumber]
  case herror =>
    intro fault hfault
    cases hfault with
    | notWhole hnull hblank hinfinite hcount hshowable =>
        rw [expectedOfValue_of_not_countsAs hnull hblank hinfinite hcount,
          if_pos hshowable]
    | negative h hnumber hshowable =>
        rw [expectedOfValue_of_countsAs h, if_neg (Int.not_le.mpr hnumber),
          if_pos hshowable]
    | infinite h =>
        subst h
        rfl
    | longValue hcount hshowable =>
        have hgiven {other : Value} (hother : other.isShowable = true) :
            value ≠ other := by
          rintro rfl
          exact Bool.false_ne_true (hshowable.symm.trans hother)
        rw [expectedOfValue_of_not_countsAs (hgiven rfl) (hgiven rfl)
          (fun _ => hgiven rfl) hcount, if_neg (Bool.eq_false_iff.mp hshowable)]
    | longNegative h hnumber hshowable =>
        rw [expectedOfValue_of_countsAs h, if_neg (Int.not_le.mpr hnumber),
          if_neg (Bool.eq_false_iff.mp hshowable)]
  case htotal =>
    by_cases hcount : ∃ number, CountsAs value number
    · obtain ⟨number, h⟩ := hcount
      by_cases hnumber : 0 ≤ number
      · exact .inl ⟨_, .count h hnumber⟩
      · rw [Int.not_le] at hnumber
        cases hshowable : (Value.int number).isShowable with
        | true => exact .inr ⟨_, .negative h hnumber hshowable⟩
        | false => exact .inr ⟨_, .longNegative h hnumber hshowable⟩
    · rw [not_exists] at hcount
      by_cases hnull : value = .null
      · subst hnull
        exact .inl ⟨_, .null⟩
      by_cases hblank : value = .text ""
      · subst hblank
        exact .inl ⟨_, .blank⟩
      by_cases hinfinite : ∃ negative, value = .float (.infinite negative)
      · obtain ⟨negative, hvalue⟩ := hinfinite
        exact .inr ⟨_, .infinite hvalue⟩
      cases hshowable : value.isShowable with
      | true =>
          exact .inr ⟨_, .notWhole hnull hblank (not_exists.mp hinfinite) hcount
            hshowable⟩
      | false => exact .inr ⟨_, .longValue hcount hshowable⟩

/-! ## The docs root and the level -/

theorem settles_pathOfValue (value : Value) :
    Settles (pathOfValue value)
      (fun path => ∃ text, value = .text text ∧ path = .ofText text)
        (fun fault => (∀ text, value ≠ .text text) ∧
          fault = .notPath value.kindName) := by
  apply Settles.of_total
  case hok =>
    rintro path ⟨text, rfl, rfl⟩
    rfl
  case herror =>
    rintro fault ⟨htext, rfl⟩
    unfold pathOfValue
    split
    · next text => exact absurd rfl (htext text)
    · rfl
  case htotal =>
    by_cases htext : ∃ text, value = .text text
    · obtain ⟨text, rfl⟩ := htext
      exact .inl ⟨_, text, rfl, rfl⟩
    · exact .inr ⟨_, not_exists.mp htext, rfl⟩

def upperCase (text : String) : String :=
  String.ofList (text.toList.map upperLetter)

/-- The level that a value names, in letters of either case. -/
def NamesLevel (value : Value) (level : LogLevel) : Prop :=
  value.isShowable = true ∧ upperCase value.toText = level.name

/-- What can be wrong with a level.  Only a value that is too long to be shown
is not refused. -/
inductive NoLevel : Value → Fault → Prop
  | unknown {value : Value} (hshowable : value.isShowable = true)
      (hlevel : ∀ level : LogLevel, upperCase value.toText ≠ level.name) :
      NoLevel value (.config (.badLevel value.toText))
  | longValue {value : Value} (hshowable : value.isShowable = false) :
      NoLevel value (.value .longNumber)

theorem ofName?_name (level : LogLevel) :
    LogLevel.ofName? level.name = some level := by
  cases level <;> decide

theorem ofName?_eq_none {name : String}
    (h : ∀ level : LogLevel, name ≠ level.name) :
    LogLevel.ofName? name = none := by
  rw [LogLevel.ofName?, List.find?_eq_none]
  intro level _
  simpa using (h level).symm

theorem levelOfValue_of_printed {value : Value} {text : String}
    (h : value.printed = .ok text) :
    levelOfValue value =
      ((LogLevel.ofName? (upperCase text)).map Except.ok).getD
        (.error (.config (.badLevel text))) := by
  unfold levelOfValue upperCase
  rw [h]
  simp only [liftValue, mapError_ok, bind, Except.bind]
  cases LogLevel.ofName? (String.ofList (text.toList.map upperLetter)) <;> rfl

theorem settles_levelOfValue (value : Value) :
    Settles (levelOfValue value) (NamesLevel value) (NoLevel value) := by
  apply Settles.of_total
  case hok =>
    rintro level ⟨hshowable, hlevel⟩
    have hname : LogLevel.ofName? (upperCase value.toText) = some level := by
      rw [hlevel, ofName?_name]
    rw [levelOfValue_of_printed (if_pos hshowable), hname]
    rfl
  case herror =>
    rintro fault (⟨hshowable, hlevel⟩ | hshowable)
    · rw [levelOfValue_of_printed (if_pos hshowable), ofName?_eq_none hlevel]
      rfl
    · have hlong : value.printed = .error .longNumber :=
        if_neg (Bool.eq_false_iff.mp hshowable)
      rw [levelOfValue, hlong]
      rfl
  case htotal =>
    cases hshowable : value.isShowable with
    | false => exact .inr ⟨_, .longValue hshowable⟩
    | true =>
        by_cases hlevel : ∃ level : LogLevel,
          upperCase value.toText = level.name
        · obtain ⟨level, hlevel⟩ := hlevel
          exact .inl ⟨level, hshowable, hlevel⟩
        · exact .inr ⟨_, .unknown hshowable (not_exists.mp hlevel)⟩

end TraitIndex.Config
