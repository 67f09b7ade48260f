import TraitIndex.Proofs.Delivery.Receivers
import TraitIndex.Registry.View

/-!
# Registries only grow

Whatever is done to a hub, the records of a trait are only ever added to at the
end, and so are the traits.  A view that has been kept reads the list of its
trait as it is now, whether or not the trait was known when the view was made,
and what it has shown at a place it goes on showing there.
-/

namespace TraitIndex

namespace Registry

/-- Every list of the earlier registry, and the list of its traits, begins the
one of the later. -/
structure Extends (earlier later : Registry) : Prop where
  records (traitName : String) : earlier.records traitName <+:
    later.records traitName
  keys : earlier.byTrait.keys <+: later.byTrait.keys

theorem Extends.refl (registry : Registry) : Extends registry registry :=
  ⟨fun _ => List.prefix_rfl, List.prefix_rfl⟩

theorem Extends.trans {first second third : Registry} (h : Extends first second)
    (hnext : Extends second third) : Extends first third :=
  ⟨fun traitName => (h.records traitName).trans (hnext.records traitName),
    h.keys.trans hnext.keys⟩

theorem extends_addAll (registry : Registry) (facts : List Fact) :
    Extends registry (registry.addAll facts) where
  records traitName := by
    rw [records_addAll]
    exact List.prefix_append _ _
  keys := by
    rw [keys_addAll]
    exact List.prefix_append _ _

theorem extends_merge (registry : Registry) (payload : Payload) :
    Extends registry (registry.merge payload).registry := by
  rw [(registry.merge_eq payload).2]
  obtain ⟨hrecords, hkeys⟩ :=
    registry.extends_addAll (unseen registry.seen payload.facts)
  exact ⟨hrecords, hkeys⟩

theorem extends_mergeAll (registry : Registry) (payloads : List Payload) :
    Extends registry (registry.mergeAll payloads).1 := by
  induction payloads generalizing registry with
  | nil => exact .refl registry
  | cons payload rest ih => exact (registry.extends_merge payload).trans (ih _)

theorem extends_receiving (registry : Registry) (name : String)
    (history : List Event) :
    Extends registry (registry.receiving name history) := by
  obtain ⟨hrecords, hkeys⟩ :=
    registry.extends_mergeAll (received (.registry name) history)
  unfold receiving
  dsimp only
  split <;> exact ⟨hrecords, hkeys⟩

end Registry

namespace View

/-! ## Places -/

section

variable {α : Type} (items : List α) (place : Nat)

theorem elementAt?_from_start :
    elementAt? items (place : Int) = items[place]? := by
  have hplace : ¬(place : Int) < 0 := by omega
  simp [elementAt?, hplace]

theorem elementAt?_from_end :
    elementAt? items (-(place : Int) - 1) = items.reverse[place]? := by
  have hplace : -(place : Int) - 1 < 0 := by omega
  simp only [elementAt?, hplace, if_true]
  split
  · next hbefore =>
      have hlength : items.reverse.length ≤ place := by
        rw [List.length_reverse]
        omega
      rw [List.getElem?_eq_none hlength]
  · next hwithin =>
      rw [List.getElem?_reverse (by omega)]
      congr 1
      omega

end

variable (view : View) (registry : Registry) {index : Value}

theorem get_of_whole {place : Int} (h : index.whole? = some place)
    (hlow : -maxIndex - 1 ≤ place) (hhigh : place ≤ maxIndex) :
    view.get registry index =
      match elementAt? (view.records registry) place with
      | some record => .ok record
      | none => .error (.outOfRange (view.sequenceName registry)) := by
  have hhuge : (decide (maxIndex < place) || decide (place < -maxIndex - 1)) =
      false := by
    rw [decide_eq_false (Int.not_lt.mpr hhigh),
      decide_eq_false (Int.not_lt.mpr hlow)]
    rfl
  cases hfound : elementAt? (view.records registry) place with
  | none => simp [get, h, hhuge, hfound]
  | some record => simp [get, h, hhuge, hfound]

/-- What is read at a place counted from the start is what stands there. -/
theorem get_eq_ok_iff {place : Nat} (h : index.whole? = some (place : Int))
    {record : Record} :
    view.get registry index = .ok record ↔
      (place : Int) ≤ maxIndex ∧ (view.records registry)[place]? =
        some record := by
  by_cases hplace : (place : Int) ≤ maxIndex
  · have hlow : -maxIndex - 1 ≤ (place : Int) := by
      rw [maxIndex]
      omega
    rw [view.get_of_whole registry h hlow hplace, elementAt?_from_start]
    cases (view.records registry)[place]? <;> simp [hplace]
  · have hhuge : (decide (maxIndex < (place : Int)) ||
      decide ((place : Int) < -maxIndex - 1)) =
        true := by
      rw [decide_eq_true (Int.not_le.mp hplace)]
      rfl
    simp [get, h, hhuge, hplace]

theorem get_of_extends {earlier later : Registry}
    (hextends : Registry.Extends earlier later) {place : Nat}
    (h : index.whole? = some (place : Int)) {record : Record}
    (hrecord : view.get earlier index = .ok record) :
    view.get later index = .ok record := by
  obtain ⟨hplace, hfound⟩ := (view.get_eq_ok_iff earlier h).mp hrecord
  obtain ⟨more, hmore⟩ := hextends.records view.traitName
  refine (view.get_eq_ok_iff later h).mpr ⟨hplace, ?_⟩
  have hlength : place < (view.records earlier).length :=
    (List.getElem?_eq_some_iff.mp hfound).1
  have hlater : view.records later = view.records earlier ++ more := hmore.symm
  rw [hlater, List.getElem?_append_left hlength, hfound]

end View

namespace Hub

/-- Between any two states of a run the registry has only been added to.  A view
of a trait reads the list of the trait as it then is, and what it has shown
counted from the start it shows still. -/
theorem run_extends (hub : Hub) (steps : List Step) (name : String) :
    let earlier := hub.registry name
    let later := (hub.run steps).registry name
    (∀ traitName, earlier.records traitName <+: later.records traitName) ∧
      earlier.byTrait.keys <+: later.byTrait.keys ∧
      ∀ view : View,
        view.records later = later.records view.traitName ∧
        view.size later = (later.records view.traitName).length ∧
        (∀ place : Nat, (place : Int) ≤ maxIndex →
          view.get later (.int place) =
            match (later.records view.traitName)[place]? with
            | some record => .ok record
            | none => .error (.outOfRange (view.sequenceName later))) ∧
        (∀ place : Nat, (place : Int) ≤ maxIndex →
          view.get later (.int (-place - 1)) =
            match (later.records view.traitName).reverse[place]? with
            | some record => .ok record
            | none => .error (.outOfRange (view.sequenceName later))) ∧
        ∀ index place record, index.whole? = some place → 0 ≤ place →
          view.get earlier index = .ok record → view.get later index =
            .ok record := by
  intro earlier later
  have hextends : Registry.Extends earlier later := by
    have hlater : later = earlier.receiving name (hub.history steps) :=
      run_registry hub steps name
    rw [hlater]
    exact earlier.extends_receiving name _
  refine ⟨hextends.records, hextends.keys, fun view => ⟨rfl, rfl, ?_, ?_, ?_⟩⟩
  · intro place hplace
    have hlow : -maxIndex - 1 ≤ (place : Int) := by
      rw [maxIndex]
      omega
    rw [view.get_of_whole later rfl hlow hplace, View.elementAt?_from_start]
    rfl
  · intro place hplace
    have hhigh : -(place : Int) - 1 ≤ maxIndex := by
      rw [maxIndex]
      omega
    rw [view.get_of_whole later rfl (by omega) hhigh, View.elementAt?_from_end]
    rfl
  · intro index place record hwhole hplace hrecord
    obtain ⟨count, rfl⟩ := Int.eq_ofNat_of_zero_le hplace
    exact view.get_of_extends hextends hwhole hrecord

example :
    let foo : Record := { Record.blank "core" with
      traitName := .text "Display", implementingType := .text "Foo" }
    let later :=
      Hub.empty.run [.merge "registry"
        (.fragment (.ofRecords [("core", [foo])] "a.js"))]
    let view : View := ⟨"Display"⟩
    view.size (Hub.empty.registry "registry") = 0 ∧
      view.size (later.registry "registry") = 1 := by
  decide +kernel

end Hub

end TraitIndex
