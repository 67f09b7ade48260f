import TraitIndex.Proofs.Registry.Growing
import TraitIndex.Proofs.Registry.Ownership

/-!
# Reading a view

A view is gone through, asked for one place, cut into slices, turned round and
searched.  All of these read the one list of its trait.  A slice goes from a
first place in equal steps up to a limit, and no place on its way lies outside
the list.  A search finds at most one record, since two records of a registry
never state the same fact.
-/

namespace TraitIndex

/-! ## Lists -/

/-- Where every element is kept, it is kept in its place. -/
theorem getElem?_filterMap_of_forall {α β : Type} {choose : α → Option β}
    {items : List α} (h : ∀ item ∈ items, (choose item).isSome) (place : Nat) :
    (items.filterMap choose)[place]? = items[place]?.bind choose := by
  induction items generalizing place with
  | nil => simp
  | cons item rest ih =>
      obtain ⟨hitem, hrest⟩ := List.forall_mem_cons.mp h
      obtain ⟨result, hresult⟩ := Option.isSome_iff_exists.mp hitem
      rw [List.filterMap_cons_some hresult]
      cases place with
      | zero => simp [hresult]
      | succ place => simpa using ih hrest place

theorem filterMap_range {α : Type} (items : List α) :
    (List.range items.length).filterMap (fun place => items[place]?) =
      items := by
  refine List.ext_getElem? fun place => ?_
  rw [getElem?_filterMap_of_forall (by simp)]
  by_cases hplace : place < items.length
  · simp [List.getElem?_range hplace]
  · simp [Nat.not_lt.mp hplace]

namespace View

/-! ## Single places -/

variable (view : View) (registry : Registry)

/-- What is said about a place that no record stands at. -/
def faultAt (place : Int) : ValueFault :=
  if maxIndex < place ∨ place < -maxIndex - 1 then .hugeIndex
  else .outOfRange (view.sequenceName registry)

theorem elementAt?_eq_none_iff {α : Type} {items : List α} {place : Int} :
    elementAt? items place = none ↔ place < -items.length ∨
      items.length ≤ place := by
  obtain hback | hforth := Int.lt_or_le place 0
  · by_cases hbefore : place + items.length < 0
    · simp [elementAt?, hback, hbefore]
      omega
    · simp [elementAt?, hback, hbefore]
      omega
  · have hstart : ¬place < 0 := by omega
    simp [elementAt?, hstart]
    omega

theorem elementAt?_of_nonneg {α : Type} {items : List α} {place : Int}
    (h : 0 ≤ place) :
    elementAt? items place = items[place.toNat]? := by
  obtain ⟨place, rfl⟩ := Int.eq_ofNat_of_zero_le h
  exact elementAt?_from_start items place

theorem elementAt?_sub_length {α : Type} {items : List α} {place : Nat}
    (h : place < items.length) : elementAt? items (place - items.length) =
      items[place]? := by
  have hback : (place : Int) - items.length < 0 := by omega
  have hplace : (place : Int) - items.length + items.length = place := by omega
  have hwithin : ¬(place : Int) < 0 := by omega
  simp [elementAt?, hback, hplace, hwithin]

theorem get_eq_error {place : Int}
    (h : place < -(view.size registry : Int) ∨ view.size registry ≤ place) :
    view.get registry (.int place) = .error (view.faultAt registry place) := by
  have hnone := elementAt?_eq_none_iff.mpr h
  unfold faultAt
  split
  · next hhuge => simp [get, Value.whole?, hhuge]
  · next hsmall =>
      rw [view.get_of_whole registry rfl (by omega) (by omega), hnone]

section

variable {view registry} (hsize : (view.size registry : Int) ≤ maxIndex)

include hsize

theorem get_eq_ok {place : Int} {record : Record}
    (h : elementAt? (view.records registry) place = some record) :
    view.get registry (.int place) = .ok record := by
  have hwithin :
      ¬(place < -(view.size registry : Int) ∨ view.size registry ≤ place) := by
    rw [size, ← elementAt?_eq_none_iff, h]
    simp
  rw [view.get_of_whole registry rfl (by omega) (by omega), h]

theorem mapM_get {places : List Nat}
    (h : ∀ place ∈ places, place < view.size registry) :
    (places.mapM fun place : Nat => view.get registry (.int place)) =
      .ok (places.filterMap fun place => (view.records registry)[place]?) := by
  induction places with
  | nil => rfl
  | cons place rest ih =>
      obtain ⟨hplace, hrest⟩ := List.forall_mem_cons.mp h
      have hfound := List.getElem?_eq_getElem hplace
      rw [List.mapM_cons, get_eq_ok hsize
        ((elementAt?_from_start _ place).trans hfound), ih hrest,
          List.filterMap_cons_some hfound]
      rfl

theorem mapM_get_range :
    ((List.range (view.size registry)).mapM fun place : Nat => view.get registry
      (.int place)) = .ok (view.records registry) := by
  rw [mapM_get hsize (by simp), size, filterMap_range]

theorem mapM_get_reverse :
    ((List.range (view.size registry)).reverse.mapM
      fun place : Nat => view.get registry (.int place)) =
        .ok (view.records registry).reverse := by
  rw [mapM_get hsize (by simp), List.filterMap_reverse, size, filterMap_range]

end

/-! ## Slices -/

def givenBound : Option Int → Value
  | none => .null
  | some bound => .int bound

/-- The number between two others that is nearest to a third. -/
def nearest (low high bound : Int) : Int :=
  if bound < low then low else if high < bound then high else bound

/-- A bound counted from the start, brought to where a slice in the given
direction can begin or end.  Backwards that is before the first place or at one
of the places. -/
def reached (length step bound : Int) : Int :=
  let place := if bound < 0 then bound + length else bound
  if step < 0 then nearest (-1) (length - 1) place else nearest 0 length place

def sliceFirst (length step : Int) : Option Int → Int
  | none => if step < 0 then length - 1 else 0
  | some bound => reached length step bound

/-- What no place of a slice may reach. -/
def sliceLimit (length step : Int) : Option Int → Int
  | none => if step < 0 then -1 else length
  | some bound => reached length step bound

/-- A place comes before a limit for one who goes by the given step. -/
def Precedes (step place limit : Int) : Prop :=
  if step < 0 then limit < place else place < limit

instance (step place limit : Int) : Decidable (Precedes step place limit) := by
  unfold Precedes
  infer_instance

theorem reached_within {length : Int} (hlength : 0 ≤ length)
    (step bound : Int) :
    (step < 0 → -1 ≤ reached length step bound ∧ reached length step bound ≤
        length - 1) ∧
      (0 ≤ step → 0 ≤ reached length step bound ∧ reached length step bound ≤
        length) := by
  unfold reached nearest
  constructor
  · intro hback
    rw [if_pos hback]
    split_ifs <;> omega
  · intro hforth
    rw [if_neg (by omega)]
    split_ifs <;> omega

/-- No place of a slice lies outside the list. -/
theorem slicePlace_within {length : Int} (hlength : 0 ≤ length) {step : Int}
    (start stop : Option Int) {count : Nat}
    (h : Precedes step (sliceFirst length step start + count * step)
      (sliceLimit length step stop)) :
    0 ≤ sliceFirst length step start + count * step ∧
      sliceFirst length step start + count * step < length := by
  have hreached := reached_within hlength step
  unfold Precedes at h
  by_cases hback : step < 0
  · have hfar : (count : Int) * step ≤ 0 :=
      Int.mul_nonpos_of_nonneg_of_nonpos (by omega) (by omega)
    have hfirst : sliceFirst length step start ≤ length - 1 := by
      cases start with
      | none => simp [sliceFirst, hback]
      | some bound => exact ((hreached bound).1 hback).2
    have hlimit : -1 ≤ sliceLimit length step stop := by
      cases stop with
      | none => simp [sliceLimit, hback]
      | some bound => exact ((hreached bound).1 hback).1
    rw [if_pos hback] at h
    omega
  · have hfar : 0 ≤ (count : Int) * step := Int.mul_nonneg (by omega) (by omega)
    have hfirst : 0 ≤ sliceFirst length step start := by
      cases start with
      | none => simp [sliceFirst, hback]
      | some bound => exact ((hreached bound).2 (by omega)).1
    have hlimit : sliceLimit length step stop ≤ length := by
      cases stop with
      | none => simp [sliceLimit, hback]
      | some bound => exact ((hreached bound).2 (by omega)).2
    rw [if_neg hback] at h
    omega

theorem clampBound_eq {length : Int} (hlength : 0 ≤ length) (step bound : Int) :
    clampBound length step bound = reached length step bound := by
  dsimp only [clampBound, reached, nearest]
  split_ifs <;> omega

/-- As many steps are taken as there are places before the limit. -/
theorem lt_stepCount_iff {step : Int} (hstep : step ≠ 0) {first limit : Int}
    {count : Nat} :
    count < stepCount first limit step ↔
      Precedes step (first + count * step) limit := by
  unfold stepCount Precedes
  by_cases hback : step < 0
  · have hcount : (count : Int) ≤ (first - limit - 1) / -step ↔
        count * -step ≤ first - limit - 1 := Int.le_ediv_iff_mul_le (by omega)
    have hfar : (count : Int) * step ≤ 0 :=
      Int.mul_nonpos_of_nonneg_of_nonpos (by omega) (by omega)
    rw [if_pos hback, if_pos hback]
    rw [Int.mul_neg] at hcount
    split <;> omega
  · have hcount : (count : Int) ≤ (limit - first - 1) / step ↔
        count * step ≤ limit - first - 1 := Int.le_ediv_iff_mul_le (by omega)
    have hfar : 0 ≤ (count : Int) * step := Int.mul_nonneg (by omega) (by omega)
    rw [if_neg hback, if_neg hback]
    split <;> omega

theorem slicePlaces_eq (length : Nat) (start stop : Option Int) (step : Int) :
    slicePlaces length start stop step =
      (List.range (stepCount (sliceFirst length step start)
        (sliceLimit length step stop) step)).map
        fun count : Nat => sliceFirst length step start + count * step := by
  have hclamp := clampBound_eq (Int.natCast_nonneg length) step
  cases start <;> cases stop <;>
    simp only [slicePlaces, sliceFirst, sliceLimit, hclamp]

theorem bound?_givenBound (bound : Option Int) :
    bound? (givenBound bound) = .ok bound := by
  cases bound <;> rfl

theorem slice_null_step (start stop : Value) :
    view.slice registry start stop .null =
      view.slice registry start stop (.int 1) := rfl

theorem slice_eq {step : Int} (hstep : step ≠ 0) (start stop : Option Int) :
    view.slice registry (givenBound start) (givenBound stop) (.int step) =
      .ok ((slicePlaces (view.size registry) start stop step).filterMap
        fun place =>
        (view.records registry)[place.toNat]?) := by
  have hby : bound? (.int step) = .ok (some step) := rfl
  unfold slice
  rw [hby, bound?_givenBound, bound?_givenBound]
  simp only [bind, Except.bind, Option.getD_some, if_neg hstep]
  rfl

/-- A slice lists the records at its places, one after the other, as far as its
limit. -/
theorem exists_slice {step : Int} (hstep : step ≠ 0) (start stop : Option Int) :
    ∃ listed,
      view.slice registry (givenBound start) (givenBound stop) (.int step) =
        .ok listed ∧
      ∀ count : Nat, listed[count]? =
        let place := sliceFirst (view.size registry) step start + count * step
        if Precedes step place (sliceLimit (view.size registry) step stop) then
          (view.records registry)[place.toNat]?
        else none := by
  refine ⟨_, view.slice_eq registry hstep start stop, fun count => ?_⟩
  rw [slicePlaces_eq, List.filterMap_map, getElem?_filterMap_of_forall]
  · dsimp only
    split
    · next hbefore =>
        simp [List.getElem?_range ((lt_stepCount_iff hstep).mpr hbefore)]
    · next hbeyond =>
        have hend := Nat.not_lt.mp (mt (lt_stepCount_iff hstep).mp hbeyond)
        simp [hend]
  · intro later hlater
    rw [List.mem_range, lt_stepCount_iff hstep] at hlater
    obtain ⟨hlow, hhigh⟩ :=
      slicePlace_within (Int.natCast_nonneg _) start stop hlater
    have hplace := (Int.toNat_lt hlow).mpr hhigh
    rw [Function.comp_apply, List.getElem?_eq_getElem hplace]
    rfl

/-- Every place before the limit can be asked for, and a slice lists what is
then got. -/
theorem exists_slice_get {view : View} {registry : Registry}
    (hsize : (view.size registry : Int) ≤ maxIndex) {step : Int}
    (hstep : step ≠ 0) (start stop : Option Int) :
    ∃ listed,
      view.slice registry (givenBound start) (givenBound stop) (.int step) =
        .ok listed ∧
      ∀ count : Nat,
        let place := sliceFirst (view.size registry) step start + count * step
        if Precedes step place (sliceLimit (view.size registry) step stop) then
          0 ≤ place ∧ place < view.size registry ∧ ∃ record,
              listed[count]? = some record ∧
            view.get registry (.int place) = .ok record
        else listed.length ≤ count := by
  obtain ⟨listed, hlisted, hplaces⟩ :=
    view.exists_slice registry hstep start stop
  refine ⟨listed, hlisted, fun count => ?_⟩
  have hcount := hplaces count
  intro place
  split
  · next hbefore =>
      obtain ⟨hlow, hhigh⟩ :=
        slicePlace_within (Int.natCast_nonneg _) start stop hbefore
      have hfound := List.getElem?_eq_getElem ((Int.toNat_lt hlow).mpr hhigh)
      have hread := (elementAt?_of_nonneg hlow).trans hfound
      exact ⟨hlow, hhigh, _, (hcount.trans (if_pos hbefore)).trans hfound,
        get_eq_ok hsize hread⟩
  · next hbeyond =>
      exact List.getElem?_eq_none_iff.mp (hcount.trans (if_neg hbeyond))

theorem slice_reversed :
    view.slice registry .null .null (.int (-1)) =
      .ok (view.reversed registry) := by
  have hstep : (-1 : Int) ≠ 0 := by omega
  obtain ⟨listed, hlisted, hplaces⟩ :=
    view.exists_slice registry hstep none none
  refine hlisted.trans (congrArg Except.ok (List.ext_getElem? fun count => ?_))
  have hlength : (view.records registry).length = view.size registry := rfl
  have hback : (-1 : Int) < 0 := by omega
  rw [hplaces]
  simp only [sliceFirst, sliceLimit, Precedes, reversed, hback, if_true]
  split
  · next hbefore =>
      rw [List.getElem?_reverse (by omega)]
      congr 1
      omega
  · next hbeyond =>
      rw [List.getElem?_eq_none]
      rw [List.length_reverse]
      omega

end View

/-! ## Searching -/

theorem Value.equals_text {content : String} {value : Value} :
    Value.equals (.text content) value = true ↔ value = .text content := by
  cases value with
  | text other => simpa [Value.equals] using eq_comm
  | _ => simp [Value.equals]

/-- A record that states a fact is equal to those that state the same fact and
agree on whether the compiler made it. -/
theorem Record.equals_iff {record other : Record} {identity : Identity}
    (h : record.identity? = some identity) :
    record.equals other = true ↔
      other.identity? = some identity ∧
        record.synthetic.equals other.synthetic = true := by
  obtain ⟨htrait, hcrate, htype, hconstraint⟩ := Record.identity?_eq_some h
  rw [Record.equals, htrait, hcrate, htype, hconstraint]
  simp only [Bool.and_eq_true, Value.equals_text]
  constructor
  · rintro ⟨⟨⟨⟨hotherTrait, hotherType⟩, hotherCrate⟩, hotherConstraint⟩,
      hsynthetic⟩
    refine ⟨?_, hsynthetic⟩
    rw [Record.identity?, hotherTrait, hotherType, hotherCrate,
      hotherConstraint]
  · rintro ⟨hother, hsynthetic⟩
    obtain ⟨hotherTrait, hotherCrate, hotherType, hotherConstraint⟩ :=
      Record.identity?_eq_some hother
    exact ⟨⟨⟨⟨hotherTrait, hotherType⟩, hotherCrate⟩, hotherConstraint⟩,
      hsynthetic⟩

theorem countP_le_one {α : Type} {holds : α → Bool} {items : List α}
    (h : items.Pairwise fun a b => ¬(holds a = true ∧ holds b = true)) :
    items.countP holds ≤ 1 := by
  induction items with
  | nil => simp
  | cons item rest ih =>
      obtain ⟨hitem, hrest⟩ := List.pairwise_cons.mp h
      rw [List.countP_cons]
      split
      · next hholds =>
          have hnone : rest.countP holds = 0 := by
            rw [List.countP_eq_zero]
            exact fun other hother hboth => hitem other hother ⟨hholds, hboth⟩
          omega
      · exact ih hrest

namespace Registry.Consistent

variable {registry : Registry} (h : Consistent registry) (view : View)

include h

theorem exists_identity {record : Record}
    (hrecord : record ∈ view.records registry) :
    ∃ identity, record.identity? = some identity := by
  obtain ⟨identity, hvalid, -⟩ := h.valid_of_mem_records hrecord
  exact ⟨identity, (Option.filter_eq_some_iff.mp hvalid).1⟩

theorem isEqual_record_iff {record other : Record}
    (hrecord : record ∈ view.records registry) :
    View.isEqual (.record other) record = true ↔
      other.identity? = record.identity? ∧
        record.synthetic.equals other.synthetic = true := by
  obtain ⟨identity, hidentity⟩ := h.exists_identity view hrecord
  rw [hidentity]
  exact Record.equals_iff hidentity

/-- No two records of a view are equal to the same thing. -/
theorem pairwise_isEqual (element : Element) :
    (view.records registry).Pairwise fun a b =>
      ¬(View.isEqual element a = true ∧ View.isEqual element b = true) := by
  cases element with
  | other value =>
      exact List.pairwise_of_forall fun _ _ hboth => Bool.false_ne_true hboth.1
  | record other =>
      have hnodup : ((view.records registry).filterMap
        Record.identity?).Nodup := by
        have hall : (registry.allRecords.filterMap Record.identity?).Nodup := by
          rw [allRecords, List.filterMap_flatMap]
          exact h.seen_perm.nodup_iff.mpr h.seen_nodup
        rw [View.records, ← h.filter_allRecords]
        exact hall.sublist (List.filter_sublist.filterMap _)
      refine (List.pairwise_filterMap.mp hnodup).imp_of_mem ?_
      rintro a b ha hb hne ⟨hequalA, hequalB⟩
      obtain ⟨first, hfirst⟩ := h.exists_identity view ha
      obtain ⟨second, hsecond⟩ := h.exists_identity view hb
      have hsame := ((h.isEqual_record_iff view ha).mp hequalA).1
      rw [((h.isEqual_record_iff view hb).mp hequalB).1, hfirst, hsecond]
        at hsame
      exact hne first hfirst second hsecond (Option.some.inj hsame).symm

theorem count_le_one (element : Element) : view.count registry element ≤ 1 :=
  countP_le_one (h.pairwise_isEqual view element)

/-- A search finds a record exactly where one is that is equal to what is
searched for. -/
theorem index_eq_ok_iff {element : Element} {place : Nat} :
    view.index registry element = .ok place ↔
      ∃ record, (view.records registry)[place]? = some record ∧
        View.isEqual element record = true := by
  have hfirst : view.index registry element = .ok place ↔
      (view.records registry).findIdx? (View.isEqual element) = some place := by
    unfold View.index
    split
    · next found hfound => simp [hfound]
    · next hnone => simp [hnone]
  rw [hfirst, List.findIdx?_eq_some_iff_getElem]
  constructor
  · rintro ⟨hplace, hequal, -⟩
    exact ⟨_, List.getElem?_eq_getElem hplace, hequal⟩
  · rintro ⟨record, hrecord, hequal⟩
    obtain ⟨hplace, rfl⟩ := List.getElem?_eq_some_iff.mp hrecord
    refine ⟨hplace, hequal, fun earlier hearlier hboth => ?_⟩
    have hpairwise :=
      List.pairwise_iff_getElem.mp (h.pairwise_isEqual view element)
    exact hpairwise earlier place (by omega) hplace hearlier ⟨hboth, hequal⟩

end Registry.Consistent

theorem View.contains_iff (view : View) (registry : Registry)
    (element : Element) :
    view.contains registry element = true ↔
      0 < view.count registry element := by
  simp [View.contains, View.count, List.countP_pos_iff]

theorem View.index_of_not_contains {view : View} {registry : Registry}
    {element : Element} (h : view.contains registry element = false) :
    view.index registry element = .error .noSuchItem := by
  have hnone : (view.records registry).findIdx? (View.isEqual element) =
      none := by
    simpa [View.contains] using h
  rw [View.index, hnone]

namespace Hub

open Registry View

/-- All ways of reading a view agree, after any steps of any hub its registry
started empty in.  Going through it gives the list of its trait.  A place,
counted from either end, gives what stands there, and a place outside the list
is refused.  A slice lists what stands at its places, and is never refused
unless it goes by no step at all.  Going backwards gives the list the other way
round.  What is searched for is found at one place at most. -/
theorem run_reads_agree (steps : List Step) (name : String) (view : View)
    (hsize : (((empty.run steps).registry name).records view.traitName).length ≤
      maxIndex) :
    let registry := (empty.run steps).registry name
    let records := registry.records view.traitName
    view.records registry = records ∧
      view.size registry = records.length ∧
      (List.range records.length).mapM
      (fun place : Nat => view.get registry (.int place)) =
        .ok records ∧
      (∀ (place : Nat) (hplace : place < records.length),
        view.get registry (.int place) = .ok records[place] ∧
          view.get registry (.int (place - records.length)) =
            .ok records[place]) ∧
      (∀ place : Int, place < -records.length ∨ records.length ≤ place →
        view.get registry (.int place) = .error (view.faultAt registry place)) ∧
      (∀ (start stop : Option Int) (step : Int), step ≠ 0 →
        ∃ listed,
          view.slice registry (givenBound start) (givenBound stop) (.int step) =
            .ok listed ∧
          ∀ count : Nat,
            let place := sliceFirst records.length step start + count * step
            if Precedes step place (sliceLimit records.length step stop) then
              0 ≤ place ∧ place < records.length ∧ ∃ record,
                  listed[count]? = some record ∧
                view.get registry (.int place) = .ok record
            else listed.length ≤ count) ∧
      (∀ start stop : Option Int,
        view.slice registry (givenBound start) (givenBound stop) .null =
          view.slice registry (givenBound start) (givenBound stop) (.int 1)) ∧
      view.reversed registry = records.reverse ∧
      view.slice registry .null .null (.int (-1)) = .ok records.reverse ∧
      (List.range records.length).reverse.mapM
      (fun place : Nat => view.get registry (.int place)) =
        .ok records.reverse ∧
      (∀ record ∈ records, ∀ other : Record,
        isEqual (.record other) record = true ↔
            other.identity? = record.identity? ∧
          record.synthetic.equals other.synthetic = true) ∧
      ∀ element : Element,
        view.count registry element ≤ 1 ∧
        (view.contains registry element = true ↔
          view.count registry element = 1) ∧
        (∀ place : Nat, view.index registry element = .ok place ↔
          ∃ record, records[place]? = some record ∧
            isEqual element record = true) ∧
        (view.contains registry element = false →
          view.index registry element = .error .noSuchItem) := by
  intro registry records
  have hempty : Consistent (empty.registry name) := Consistent.empty
  have h : Consistent registry := run_consistent hempty steps
  refine ⟨rfl, rfl, view.mapM_get_range hsize, ?_, ?_, ?_, ?_, rfl,
    view.slice_reversed registry, view.mapM_get_reverse hsize, ?_, ?_⟩
  · intro place hplace
    have hfound := List.getElem?_eq_getElem hplace
    exact ⟨get_eq_ok hsize ((elementAt?_from_start _ place).trans hfound),
      get_eq_ok hsize ((elementAt?_sub_length hplace).trans hfound)⟩
  · exact fun place hplace => view.get_eq_error registry hplace
  · exact fun start stop step hstep =>
      view.exists_slice_get hsize hstep start stop
  · exact fun start stop => view.slice_null_step registry _ _
  · exact fun record hrecord other => h.isEqual_record_iff view hrecord
  · intro element
    have hcount := h.count_le_one view element
    refine ⟨hcount, ?_, fun place => h.index_eq_ok_iff view,
      View.index_of_not_contains⟩
    rw [View.contains_iff]
    omega

def recordOf (name : String) (synthetic : Bool) : Record :=
  { Record.blank "core" with
    traitName := .text "Display", implementingType := .text name,
    synthetic := .bool synthetic }

/-- Three records of a trait.  The second was made by the compiler. -/
def threeRecords : List Record :=
  [recordOf "Foo" false, recordOf "Bar" true, recordOf "Baz" false]

def threeSteps : List Step :=
  [.merge "registry" (.fragment (.ofRecords [("core", threeRecords)] "a.js"))]

theorem records_threeSteps :
    ((empty.run threeSteps).registry "registry").records "Display" =
      threeRecords :=
  rfl

theorem run_reads_agree_three :
    let registry := (empty.run threeSteps).registry "registry"
    let view : View := ⟨"Display"⟩
    ((registry.records "Display").length : Int) ≤ maxIndex ∧ (-2 : Int) ≠ 0 ∧
      view.get registry (.int (-1)) = .ok threeRecords[2] ∧
      view.get registry (.int 3) = .error (.outOfRange "list") ∧
      (∃ listed, view.slice registry (.int 7) .null (.int (-2)) = .ok listed ∧
        listed[1]? = some threeRecords[0] ∧ listed.length = 2) ∧
      view.index registry (.record { threeRecords[1] with rendered := .int 1 })
        = .ok 1 ∧
      view.index registry
        (.record { threeRecords[1] with synthetic := .null }) =
        .error .noSuchItem := by
  intro registry view
  have hrecords : registry.records "Display" = threeRecords :=
    records_threeSteps
  have hsize : ((registry.records "Display").length : Int) ≤ maxIndex := by
    rw [hrecords]
    decide
  obtain ⟨-, -, -, hplaces, houtside, hslices, -, -, -, -, hequal, hsearch⟩ :=
    run_reads_agree threeSteps "registry" view hsize
  have hlist : ((empty.run threeSteps).registry "registry").records
      view.traitName = threeRecords := hrecords
  simp only [hlist] at hplaces houtside hslices hequal hsearch
  have hfind (place : Nat) {element : Element} {record : Record}
      (hrecord : threeRecords[place]? = some record)
      (hsame : isEqual element record = true) :
      view.index registry element = .ok place :=
    ((hsearch element).2.2.1 place).mpr ⟨record, hrecord, hsame⟩
  obtain ⟨listed, hlisted, hcounts⟩ := hslices (some 7) none (-2) (by decide)
  refine ⟨hsize, by decide, (hplaces 2 (by decide)).2, houtside 3 (by decide),
    ?_, ?_, ?_⟩
  · have hsecond := hcounts 1
    have hthird := hcounts 2
    rw [if_pos (by decide)] at hsecond
    rw [if_neg (by decide)] at hthird
    obtain ⟨-, -, record, hrecord, hread⟩ := hsecond
    have hfirst := (hplaces 0 (by decide)).1
    obtain rfl := Except.ok.inj (hfirst.symm.trans hread)
    have hlength := (List.getElem?_eq_some_iff.mp hrecord).1
    exact ⟨listed, hlisted, hrecord, by omega⟩
  · exact hfind 1 rfl (by cbv)
  · have hmissing : view.contains registry
        (.record { threeRecords[1] with synthetic := .null }) = false := by
      rw [View.contains, View.records, hrecords]
      cbv
    exact (hsearch _).2.2.2 hmissing

end Hub

end TraitIndex
