import TraitIndex.Proofs.Json.Layout

/-!
# Values written and read

Written forms are put together as values are: a list from those of its items, an
object from its names and those of its fields, without blanks.
-/

namespace TraitIndex.Json

/-! ## Scalars -/

theorem reads_string {write : Char → List Char} (h : ReadsChars write)
    (text : String) :
    Reads ('"' :: text.toList.flatMap write ++ ['"']) (.text text) :=
  ReadsBody.reads fun opening rest =>
    stringBody_written opening h text.toList rest

theorem reads_bool (truth : Bool) :
    Reads (encode (.bool truth)) (.bool truth) where
  opens := by cases truth <;> exact ⟨_, _, rfl, by decide, by decide, by decide⟩
  reads fuel rest hfuel := by
    cases fuel with
    | zero => cases truth <;> simp [encode] at hfuel
    | succ fuel => cases truth <;> rfl

/-! ## Lists -/

def Item.bare (written : List Char × Value) : Item where
  before := []
  text := written.1
  after := []
  content := written.2
  layout_before := isLayout_nil
  layout_after := isLayout_nil

@[simp] theorem Item.padded_bare (written : List Char × Value) :
    (Item.bare written).padded = written.1 := by
  simp [Item.bare, Item.padded]

@[simp] theorem Item.content_bare (written : List Char × Value) :
    (Item.bare written).content = written.2 := rfl

theorem reads_list (written : List (List Char × Value))
    (h : ∀ item ∈ written, Reads item.1 item.2) :
    Reads ('[' :: separated (written.map (·.1)) ++ [']'])
      (.list (written.map (·.2))) := by
  have hlist := reads_listText isLayout_nil
    (List.forall_mem_map.mpr fun item hitem => (h item hitem).inside :
      ∀ item ∈ written.map Item.bare, ReadsInside item.text item.content)
  simpa [listText, Function.comp_def] using hlist

theorem encodeItems_eq_map (items : List Value) :
    encodeItems items = items.map encode := by
  induction items with
  | nil => rfl
  | cons item items ih => rw [encodeItems, ih, List.map_cons]

theorem reads_encode_text (text : String) :
    Reads (encode (.text text)) (.text text) :=
  reads_string readsChars_stringChar text

theorem reads_encode_list {items : List Value}
    (h : ∀ item ∈ items, Reads (encode item) item) :
    Reads (encode (.list items)) (.list items) := by
  have hlist :=
    reads_list (items.map fun item => (encode item, item)) (by simpa using h)
  rw [List.map_map, List.map_map] at hlist
  rw [encode, encodeItems_eq_map]
  simpa [Function.comp_def] using hlist

/-! ## Objects -/

def fieldText (field : String × List Char × Value) : List Char :=
  encodeString field.1 ++ ':' :: field.2.1

def fieldValue (field : String × List Char × Value) : Value × Value :=
  (.text field.1, field.2.2)

def Field.bare (written : String × List Char × Value) : Field where
  before := []
  body := written.1.toList.flatMap stringChar
  after := []
  key := written.1
  item := Item.bare written.2
  layout_before := isLayout_nil
  layout_after := isLayout_nil

@[simp] theorem Field.padded_bare (written : String × List Char × Value) :
    (Field.bare written).padded = fieldText written := by
  simp [Field.bare, Field.padded, Field.text, fieldText, encodeString]

@[simp] theorem Field.value_bare (written : String × List Char × Value) :
    (Field.bare written).value = fieldValue written := rfl

theorem reads_object (written : List (String × List Char × Value))
    (h : ∀ field ∈ written, Reads field.2.1 field.2.2) :
    Reads ('\x7b' :: separated (written.map fieldText) ++ ['\x7d'])
      (.ofFields (written.map fieldValue)) := by
  have hkeys : ∀ field ∈ written.map Field.bare,
      ReadsBody field.body field.key :=
    List.forall_mem_map.mpr fun field _ opening rest =>
      stringBody_written opening readsChars_stringChar field.1.toList rest
  have hobject := reads_objectText isLayout_nil hkeys
    (List.forall_mem_map.mpr fun field hfield => (h field hfield).inside)
  simpa [objectText, Function.comp_def] using hobject

end TraitIndex.Json
