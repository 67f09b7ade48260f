import Mathlib.Algebra.GroupWithZero.Nat
import Mathlib.Data.Finset.Card
import TraitIndex.Registry.Merge

/-!
# What payloads state

A payload states facts, one for each of its valid records, in the order in which
they are listed.  Everything else it lists is counted and says nothing.  The
facts that a sequence of payloads adds to a registry are the first ones of their
identities.
-/

namespace TraitIndex

/-- A valid record with its identity. -/
structure Fact where
  identity : Identity
  record : Record
  isValid : record.validIdentity? = some identity

theorem Record.identity?_eq_some {record : Record} {identity : Identity}
    (h : record.identity? = some identity) :
    record.traitName = .text identity.traitName ∧
        record.owningCrate = .text identity.owningCrate ∧
      record.implementingType = .text identity.implementingType ∧
      record.constraintText = .text identity.constraintText := by
  unfold Record.identity? at h
  split at h
  · next htrait hcrate htype hconstraint =>
      cases h
      exact ⟨htrait, hcrate, htype, hconstraint⟩
  · cases h

theorem Fact.identity_of_valid (fact : Fact) :
    fact.record.identity? = some fact.identity :=
  (Option.filter_eq_some_iff.mp fact.isValid).1

/-! ## Facts and droppings -/

def Element.fact? : Element → Option Fact
  | .other _ => none
  | .record r =>
      match h : r.validIdentity? with
      | some identity => some ⟨identity, r, h⟩
      | none => none

theorem Element.fact?_of_valid {r : Record} {identity : Identity}
    (h : r.validIdentity? = some identity) :
    (Element.record r).fact? = some ⟨identity, r, h⟩ := by
  simp only [Element.fact?]
  split
  · next other hother =>
      obtain rfl : identity = other := Option.some.inj (h.symm.trans hother)
      rfl
  · next hnone => exact absurd (h.symm.trans hnone) (by simp)

theorem Element.fact?_of_invalid {r : Record} (h : r.validIdentity? = none) :
    (Element.record r).fact? = none := by
  simp only [Element.fact?]
  split
  · next other hother => exact absurd (h.symm.trans hother) (by simp)
  · rfl

theorem Element.map_identity_fact? (element : Element) :
    element.fact?.map (·.identity) = element.validIdentity? := by
  cases element with
  | other value => rfl
  | record r =>
      have hvalid : (Element.record r).validIdentity? = r.validIdentity? := rfl
      cases h : r.validIdentity? with
      | none => rw [hvalid, h, fact?_of_invalid h, Option.map_none]
      | some identity => rw [hvalid, h, fact?_of_valid h, Option.map_some]

def Entry.facts : Entry → List Fact
  | .listed elements => elements.filterMap Element.fact?
  | .other _ => []

/-- How much of an entry is dropped: what is no valid record, or the entry
itself when it is no list. -/
def Entry.droppings : Entry → Nat
  | .listed elements => elements.countP fun element => element.fact?.isNone
  | .other _ => 1

namespace Payload

def crates? : Payload → Option (Assoc String Entry)
  | .fragment ⟨.byCrate crates, _⟩ => some crates
  | _ => none

def isAccepted (payload : Payload) : Bool :=
  payload.crates?.isSome

/-- What a payload states, crate by crate. -/
def facts (payload : Payload) : List Fact :=
  (payload.crates?.getD []).flatMap fun field => field.2.facts

def droppings (payload : Payload) : Nat :=
  ((payload.crates?.getD []).map fun field => field.2.droppings).sum

/-- The source a payload gives itself, empty when it gives none. -/
def givenSource : Payload → String
  | .fragment ⟨_, source⟩ => source.text?.getD ""
  | .other _ => ""

/-- The source a payload is known by: its own, or the name of what it states. -/
def sourceId (payload : Payload) : String :=
  if payload.givenSource = "" then contentId (payload.facts.map (·.identity))
  else payload.givenSource

theorem facts_eq_nil_of_refused {payload : Payload}
    (h : payload.isAccepted = false) :
    payload.facts = [] := by
  rw [isAccepted, Option.isSome_eq_false_iff, Option.isNone_iff_eq_none] at h
  simp [facts, h]

end Payload

/-! ## First facts -/

/-- The first fact of each identity. -/
def firsts (facts : List Fact) : List Fact :=
  facts.eraseDupsBy fun a b => a.identity == b.identity

def unseen (seen : List Identity) (facts : List Fact) : List Fact :=
  firsts (facts.filter fun fact => !seen.contains fact.identity)

theorem firsts_cons (fact : Fact) (facts : List Fact) :
    firsts (fact :: facts) = fact :: unseen [fact.identity] facts := by
  rw [firsts, List.eraseDupsBy_cons, unseen, firsts]
  congr 3
  funext other
  rw [Bool.eq_iff_iff]
  simp

@[simp] theorem unseen_empty (facts : List Fact) :
    unseen [] facts = firsts facts := by
  simp [unseen]

@[simp] theorem unseen_nil (seen : List Identity) : unseen seen [] = [] := rfl

theorem unseen_cons_of_mem {seen : List Identity} {fact : Fact}
    (h : fact.identity ∈ seen) (facts : List Fact) :
    unseen seen (fact :: facts) = unseen seen facts := by
  simp [unseen, h]

theorem unseen_cons_of_not_mem {seen : List Identity} {fact : Fact}
    (h : fact.identity ∉ seen) (facts : List Fact) :
    unseen seen (fact :: facts) =
      fact :: unseen (seen ++ [fact.identity]) facts := by
  have hkept : (!seen.contains fact.identity) = true := by simp [h]
  rw [unseen, List.filter_cons, if_pos hkept, firsts_cons, unseen, unseen,
    List.filter_filter]
  congr 3
  funext other
  simp [Bool.and_comm]

/-- Nothing is new among facts whose identities have all been seen. -/
theorem unseen_eq_nil {seen : List Identity} {facts : List Fact}
    (h : ∀ fact ∈ facts, fact.identity ∈ seen) : unseen seen facts = [] := by
  induction facts with
  | nil => rfl
  | cons fact rest ih =>
      obtain ⟨hfact, hrest⟩ := List.forall_mem_cons.mp h
      rw [unseen_cons_of_mem hfact, ih hrest]

/-- What has been taken up from the earlier facts counts as seen for the later
ones. -/
theorem unseen_append (seen : List Identity) (earlier later : List Fact) :
    unseen seen (earlier ++ later) =
      unseen seen earlier ++
        unseen (seen ++ (unseen seen earlier).map (·.identity)) later := by
  induction earlier generalizing seen with
  | nil => simp
  | cons fact rest ih =>
      by_cases h : fact.identity ∈ seen
      · rw [List.cons_append, unseen_cons_of_mem h, unseen_cons_of_mem h, ih]
      · rw [List.cons_append, unseen_cons_of_not_mem h,
          unseen_cons_of_not_mem h, ih]
        simp

theorem length_unseen_le (seen : List Identity) (facts : List Fact) :
    (unseen seen facts).length ≤ facts.length := by
  induction facts generalizing seen with
  | nil => simp
  | cons fact rest ih =>
      by_cases h : fact.identity ∈ seen
      · rw [unseen_cons_of_mem h]
        exact Nat.le_succ_of_le (ih seen)
      · rw [unseen_cons_of_not_mem h]
        exact Nat.succ_le_succ (ih _)

theorem mem_map_unseen {seen : List Identity} {facts : List Fact}
    {identity : Identity} :
    identity ∈ (unseen seen facts).map (·.identity) ↔
      identity ∈ facts.map (·.identity) ∧ identity ∉ seen := by
  induction facts generalizing seen with
  | nil => simp
  | cons fact rest ih =>
      by_cases h : fact.identity ∈ seen
      · rw [unseen_cons_of_mem h, ih, List.map_cons, List.mem_cons]
        constructor
        · exact fun ⟨hstated, hnew⟩ => ⟨.inr hstated, hnew⟩
        · rintro ⟨rfl | hstated, hnew⟩
          · exact absurd h hnew
          · exact ⟨hstated, hnew⟩
      · rw [unseen_cons_of_not_mem h, List.map_cons, List.mem_cons, ih,
          List.map_cons, List.mem_cons]
        by_cases he : identity = fact.identity
        · simp [he, h]
        · simp [he]

theorem nodup_map_unseen (seen : List Identity) (facts : List Fact) :
    ((unseen seen facts).map (·.identity)).Nodup := by
  induction facts generalizing seen with
  | nil => simp
  | cons fact rest ih =>
      by_cases h : fact.identity ∈ seen
      · rw [unseen_cons_of_mem h]
        exact ih seen
      · rw [unseen_cons_of_not_mem h, List.map_cons, List.nodup_cons,
          mem_map_unseen]
        exact ⟨by simp, ih _⟩

/-- The first fact of an identity stays the first one. -/
theorem find?_unseen {seen : List Identity} {identity : Identity}
    (h : identity ∉ seen) (facts : List Fact) :
    (unseen seen facts).find? (·.identity = identity) =
      facts.find? (·.identity = identity) := by
  induction facts generalizing seen with
  | nil => rfl
  | cons fact rest ih =>
      by_cases he : fact.identity = identity
      · rw [unseen_cons_of_not_mem (he ▸ h)]
        simp [he]
      · by_cases hs : fact.identity ∈ seen
        · rw [unseen_cons_of_mem hs, ih h]
          simp [he]
        · rw [unseen_cons_of_not_mem hs]
          have hnew : identity ∉ seen ++ [fact.identity] := by
            simp [h, Ne.symm he]
          simp [he, ih hnew]

theorem sublist_unseen (seen : List Identity) (facts : List Fact) :
    (unseen seen facts).Sublist facts := by
  induction facts generalizing seen with
  | nil => simp
  | cons fact rest ih =>
      by_cases h : fact.identity ∈ seen
      · rw [unseen_cons_of_mem h]
        exact (ih seen).cons fact
      · rw [unseen_cons_of_not_mem h]
        exact (ih _).cons_cons fact

def newIdentities (seen : List Identity) (facts : List Fact) :
    Finset Identity :=
  (facts.map (·.identity)).toFinset.filter (· ∉ seen)

theorem card_newIdentities (seen : List Identity) (facts : List Fact) :
    (newIdentities seen facts).card = (unseen seen facts).length := by
  have hset : newIdentities seen facts =
      ((unseen seen facts).map (·.identity)).toFinset := by
    ext identity
    rw [List.mem_toFinset, mem_map_unseen, newIdentities, Finset.mem_filter,
      List.mem_toFinset]
  rw [hset, List.toFinset_card_of_nodup (nodup_map_unseen seen facts),
    List.length_map]

end TraitIndex
