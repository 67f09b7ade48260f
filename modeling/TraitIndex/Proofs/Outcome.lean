/-!
# Outcomes

What is known of the parts of a computation that may fail, when its result is
known, and what is known of its result, when it is known what each of its parts
gives and what it fails for.
-/

namespace TraitIndex

variable {ε α β : Type}

theorem exists_of_bind_eq_ok {first : Except ε α} {next : α → Except ε β}
    {result : β} (h : first >>= next = .ok result) : ∃ value,
      first = .ok value ∧ next value = .ok result := by
  cases first with
  | ok value => exact ⟨value, rfl, h⟩
  | error fault => cases h

theorem exists_of_map_eq_ok {f : α → β} {result : Except ε α} {value : β}
    (h : result.map f = .ok value) : ∃ given, result = .ok given ∧
      f given = value := by
  cases result with
  | ok given => exact ⟨given, rfl, Except.ok.inj h⟩
  | error fault => cases h

theorem eq_error_of_map {f : α → β} {result : Except ε α} {fault : ε}
    (h : result.map f = .error fault) : result = .error fault := by
  cases result with
  | ok given => cases h
  | error cause => exact congrArg _ (Except.error.inj h)

theorem mapError_ok {ζ : Type} (f : ε → ζ) (value : α) :
    (Except.ok value : Except ε α).mapError f = .ok value := rfl

theorem mapError_error {ζ : Type} (f : ε → ζ) (fault : ε) :
    (Except.error fault : Except ε α).mapError f = .error (f fault) := rfl

theorem mapError_bind {ζ : Type} (f : ε → ζ) (first : Except ε α)
    (next : α → Except ε β) :
    (first >>= next).mapError f = first.mapError f >>= fun value =>
      (next value).mapError f := by
  cases first <;> rfl

theorem map_nil_append (result : Except ε (List α)) :
    result.map (([] : List α) ++ ·) = result := by
  cases result <;> rfl

theorem toOption_eq_some_iff {result : Except ε α} {value : α} :
    result.toOption = some value ↔ result = .ok value := by
  cases result <;> simp [Except.toOption]

theorem toOption_map (f : α → β) (result : Except ε α) :
    (result.map f).toOption = result.toOption.map f := by
  cases result <;> rfl

/-! ## Steps that are settled -/

/-- A step that gives the accepted values and fails with the given faults, and
nothing else. -/
structure Settles (result : Except ε α) (accepted : α → Prop)
    (failed : ε → Prop) : Prop where
  ok : ∀ value, result = .ok value ↔ accepted value
  error : ∀ fault, result = .error fault ↔ failed fault

namespace Settles

variable {result : Except ε α} {accepted : α → Prop} {failed : ε → Prop}

/-- It is enough to know what each case comes to when the cases are all there
are. -/
theorem of_total (hok : ∀ value, accepted value → result = .ok value)
    (herror : ∀ fault, failed fault → result = .error fault)
    (htotal : (∃ value, accepted value) ∨ ∃ fault, failed fault) :
    Settles result accepted failed := by
  obtain ⟨value, hvalue⟩ | ⟨fault, hfault⟩ := htotal
  · refine ⟨fun other => ⟨fun h => ?_, hok other⟩, fun fault =>
      ⟨fun h => ?_, herror fault⟩⟩
    · obtain rfl := Except.ok.inj ((hok value hvalue).symm.trans h)
      exact hvalue
    · cases (hok value hvalue).symm.trans h
  · refine ⟨fun value => ⟨fun h => ?_, hok value⟩, fun other =>
      ⟨fun h => ?_, herror other⟩⟩
    · cases (herror fault hfault).symm.trans h
    · obtain rfl := Except.error.inj ((herror fault hfault).symm.trans h)
      exact hfault

theorem of_ok (value : α) :
    Settles (.ok value : Except ε α) (value = ·) fun _ => False :=
  .of_total (fun _ h => congrArg _ h) (fun _ h => h.elim) (.inl ⟨value, rfl⟩)

theorem bind {next : α → Except ε β} {acceptedNext : α → β → Prop}
    {failedNext : α → ε → Prop} (h : Settles result accepted failed)
    (hnext : ∀ value, accepted value →
      Settles (next value) (acceptedNext value) (failedNext value)) :
    Settles (result >>= next)
      (fun last => ∃ value, accepted value ∧ acceptedNext value last)
        (fun fault => failed fault ∨ ∃ value, accepted value ∧
          failedNext value fault) := by
  cases hresult : result with
  | ok value =>
      have hvalue := (h.ok value).mp hresult
      apply of_total
      · rintro last ⟨other, hother, hlast⟩
        obtain rfl :=
          Except.ok.inj (hresult.symm.trans ((h.ok other).mpr hother))
        exact ((hnext value hvalue).ok last).mpr hlast
      · rintro fault (hfault | ⟨other, hother, hfault⟩)
        · cases hresult.symm.trans ((h.error fault).mpr hfault)
        · obtain rfl :=
            Except.ok.inj (hresult.symm.trans ((h.ok other).mpr hother))
          exact ((hnext value hvalue).error fault).mpr hfault
      · cases hlast : next value with
        | ok last =>
            exact .inl ⟨last, value, hvalue,
              ((hnext value hvalue).ok last).mp hlast⟩
        | error fault =>
            exact .inr ⟨fault,
              .inr ⟨value, hvalue, ((hnext value hvalue).error fault).mp hlast⟩⟩
  | error fault =>
      have hfault := (h.error fault).mp hresult
      apply of_total
      · rintro last ⟨other, hother, -⟩
        cases hresult.symm.trans ((h.ok other).mpr hother)
      · rintro cause (hcause | ⟨other, hother, -⟩)
        · obtain rfl :=
            Except.error.inj (hresult.symm.trans ((h.error cause).mpr hcause))
          rfl
        · cases hresult.symm.trans ((h.ok other).mpr hother)
      · exact .inr ⟨fault, .inl hfault⟩

theorem congr {others : α → Prop} {faults : ε → Prop}
    (h : Settles result accepted failed)
    (haccepted : ∀ value, accepted value ↔ others value)
    (hfailed : ∀ fault, failed fault ↔ faults fault) :
    Settles result others faults :=
  ⟨fun value => (h.ok value).trans (haccepted value),
    fun fault => (h.error fault).trans (hfailed fault)⟩

end Settles

end TraitIndex
