/-!
Maps that remember the order in which their keys first came.

A map is the list of its keys with their values.  Assigning to a key that is
already there changes the value and leaves the key in its place.
-/

namespace TraitIndex

abbrev Assoc (κ ν : Type) := List (κ × ν)

namespace Assoc

variable {κ ν : Type} [DecidableEq κ]

def find? (key : κ) : Assoc κ ν → Option ν
  | [] => none
  | field :: rest => if field.1 = key then some field.2 else find? key rest

def insert (key : κ) (value : ν) : Assoc κ ν → Assoc κ ν
  | [] => [(key, value)]
  | field :: rest =>
      if field.1 = key then (key, value) :: rest
      else field :: insert key value rest

/-- The map that a sequence of assignments builds. -/
def ofList (fields : List (κ × ν)) : Assoc κ ν :=
  fields.foldl (fun built field => insert field.1 field.2 built) []

def keys (fields : Assoc κ ν) : List κ :=
  fields.map (·.1)

/-! ## What an assignment changes -/

@[simp] theorem find?_nil (key : κ) : find? key ([] : Assoc κ ν) = none := rfl

@[simp] theorem find?_insert_self (key : κ) (value : ν) (fields : Assoc κ ν) :
    (insert key value fields).find? key = some value := by
  induction fields with
  | nil => simp [insert, find?]
  | cons field rest ih =>
      by_cases h : field.1 = key <;> simp [insert, find?, h, ih]

theorem find?_insert_of_ne {key other : κ} (h : other ≠ key) (value : ν)
    (fields : Assoc κ ν) :
    (insert key value fields).find? other = fields.find? other := by
  induction fields with
  | nil => simp [insert, find?, h.symm]
  | cons field rest ih =>
      by_cases hk : field.1 = key
      · simp [insert, find?, hk, h.symm]
      · by_cases ho : field.1 = other
        · subst ho
          simp [insert, find?, h]
        · simp [insert, find?, hk, ho, ih]

theorem find?_insert (key other : κ) (value : ν) (fields : Assoc κ ν) :
    (insert key value fields).find? other
      = if other = key then some value else fields.find? other := by
  by_cases h : other = key
  · simp [h]
  · simp [h, find?_insert_of_ne h]

theorem isSome_find?_iff {key : κ} {fields : Assoc κ ν} :
    (fields.find? key).isSome ↔ key ∈ fields.keys := by
  induction fields with
  | nil => simp [keys]
  | cons field rest ih =>
      simp only [find?, keys, List.map_cons, List.mem_cons] at ih ⊢
      by_cases h : field.1 = key
      · simp [h]
      · simp [h, Ne.symm h, ih]

theorem find?_of_mem {fields : Assoc κ ν} (h : fields.keys.Nodup)
    {field : κ × ν} (hfield : field ∈ fields) :
    fields.find? field.1 = some field.2 := by
  induction fields with
  | nil => exact absurd hfield List.not_mem_nil
  | cons first rest ih =>
      obtain ⟨hhead, hrest⟩ := List.nodup_cons.mp h
      have hfirst : first.1 ∉ rest.map (·.1) := hhead
      rw [find?]
      cases List.mem_cons.mp hfield with
      | inl heq => simp [heq]
      | inr hmem =>
          have hkey : field.1 ∈ rest.map (·.1) := List.mem_map_of_mem hmem
          have hne : first.1 ≠ field.1 := fun heq => hfirst (heq ▸ hkey)
          rw [if_neg hne, ih hrest hmem]

theorem mem_of_find? {fields : Assoc κ ν} {key : κ} {value : ν}
    (h : fields.find? key = some value) : (key, value) ∈ fields := by
  induction fields with
  | nil => cases h
  | cons first rest ih =>
      rw [find?] at h
      split at h
      · next heq =>
          obtain rfl := Option.some.inj h
          exact heq ▸ List.mem_cons_self
      · exact List.mem_cons_of_mem _ (ih h)

theorem mem_insert {key : κ} {value : ν} {fields : Assoc κ ν} {field : κ × ν}
    (h : field ∈ insert key value fields) : field = (key, value) ∨
      field ∈ fields := by
  induction fields with
  | nil => exact .inl (List.mem_singleton.mp h)
  | cons first rest ih =>
      rw [insert] at h
      split at h
      · exact (List.mem_cons.mp h).imp_right (List.mem_cons_of_mem _)
      · obtain rfl | hrest := List.mem_cons.mp h
        · exact .inr List.mem_cons_self
        · exact (ih hrest).imp_right (List.mem_cons_of_mem _)

theorem insert_insert (key : κ) (value last : ν) (fields : Assoc κ ν) :
    insert key last (insert key value fields) = insert key last fields := by
  induction fields with
  | nil => simp [insert]
  | cons field rest ih =>
      by_cases h : field.1 = key
      · simp [insert, h]
      · simp [insert, h, ih]

theorem keys_insert_of_mem {key : κ} {fields : Assoc κ ν}
    (h : key ∈ fields.keys) (value : ν) :
    (insert key value fields).keys = fields.keys := by
  induction fields with
  | nil => simp [keys] at h
  | cons field rest ih =>
      by_cases hk : field.1 = key
      · simp [insert, keys, hk]
      · have hr : key ∈ keys rest := by simpa [keys, Ne.symm hk] using h
        have ih := ih hr
        simp only [keys] at ih
        simp [insert, keys, hk, ih]

theorem insert_of_not_mem {key : κ} {fields : Assoc κ ν} (h : key ∉ fields.keys)
    (value : ν) :
    insert key value fields = fields ++ [(key, value)] := by
  induction fields with
  | nil => rfl
  | cons field rest ih =>
      have hk : field.1 ≠ key := fun e => h (by simp [keys, e])
      have hr : key ∉ keys rest := fun hr => h (List.mem_cons_of_mem _ hr)
      rw [insert, if_neg hk, ih hr, List.cons_append]

theorem keys_insert_of_not_mem {key : κ} {fields : Assoc κ ν}
    (h : key ∉ fields.keys) (value : ν) : (insert key value fields).keys =
      fields.keys ++ [key] := by
  rw [insert_of_not_mem h]
  simp [keys]

theorem nodup_keys_insert {fields : Assoc κ ν} (h : fields.keys.Nodup) (key : κ)
    (value : ν) :
    (insert key value fields).keys.Nodup := by
  by_cases hk : key ∈ fields.keys
  · rw [keys_insert_of_mem hk]
    exact h
  · rw [keys_insert_of_not_mem hk, List.nodup_append]
    refine ⟨h, by simp, ?_⟩
    intro a ha b hb e
    rw [List.mem_singleton] at hb
    exact hk (hb ▸ e ▸ ha)

theorem nodup_keys_ofList (fields : List (κ × ν)) :
    (ofList fields).keys.Nodup := by
  refine List.foldlRecOn (motive := fun built => (keys built).Nodup) fields _
    List.nodup_nil ?_
  exact fun built hbuilt field _ => nodup_keys_insert hbuilt field.1 field.2

theorem mem_of_mem_ofList {fields : List (κ × ν)} {field : κ × ν}
    (h : field ∈ ofList fields) :
    field ∈ fields := by
  refine List.foldlRecOn
    (motive := fun built => ∀ kept ∈ built, kept ∈ fields) fields _
    (fun _ hnil => absurd hnil List.not_mem_nil) ?_ field h
  intro built hbuilt assigned hassigned kept hkept
  obtain rfl | hold := mem_insert hkept
  · exact hassigned
  · exact hbuilt kept hold

theorem ofList_of_nodup {fields : Assoc κ ν} (h : fields.keys.Nodup) :
    ofList fields = fields := by
  have hfold (built : Assoc κ ν) (hbuilt : (built ++ fields).keys.Nodup) :
      fields.foldl (fun built field => insert field.1 field.2 built) built =
        built ++ fields := by
    clear h
    induction fields generalizing built with
    | nil => simp
    | cons field rest ih =>
        have hnew : field.1 ∉ built.keys := by
          simp only [keys, List.map_append, List.map_cons, List.nodup_append]
            at hbuilt ⊢
          exact fun hmem => hbuilt.2.2 _ hmem _ List.mem_cons_self rfl
        rw [List.foldl_cons, insert_of_not_mem hnew,
          ih _ (by simpa using hbuilt)]
        simp
  exact hfold [] h

section

variable {μ : Type} (f : ν → μ)

theorem insert_map (key : κ) (value : ν) (fields : Assoc κ ν) :
    insert key (f value) (fields.map fun field => (field.1, f field.2)) =
      (insert key value fields).map fun field => (field.1, f field.2) := by
  induction fields with
  | nil => rfl
  | cons field rest ih =>
      by_cases h : field.1 = key
      · simp [insert, h]
      · simp [insert, h, ih]

theorem ofList_map (fields : List (κ × ν)) :
    ofList (fields.map fun field => (field.1, f field.2)) =
      (ofList fields).map fun field => (field.1, f field.2) := by
  have hfold (built : Assoc κ ν) :
      (fields.map fun field => (field.1, f field.2)).foldl
          (fun built field => insert field.1 field.2 built)
          (built.map fun field => (field.1, f field.2)) =
        (fields.foldl (fun built field => insert field.1 field.2 built)
          built).map
          fun field => (field.1, f field.2) := by
    induction fields generalizing built with
    | nil => rfl
    | cons field rest ih =>
        simp only [List.map_cons, List.foldl_cons, insert_map, ih]
  exact hfold []

end

end Assoc

end TraitIndex
