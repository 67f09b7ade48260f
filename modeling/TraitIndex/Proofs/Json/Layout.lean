import TraitIndex.Proofs.Json.Strings

/-!
# Lists and objects in any layout

Blanks may stand around every item of a list and around every key and value of
an object.  Readers pass over them, so a list is read as its items and an object
as its fields, however they are laid out.  A text in brackets is read whatever
comes next; a number only where it ends.
-/

namespace TraitIndex.Json

/-! ## Texts of values -/

/-- A text that no reader of collections passes over or takes for an end. -/
def Opens (text : List Char) : Prop :=
  ∃ c rest, text = c :: rest ∧ isSpace c = false ∧ c ≠ ']' ∧ c ≠ '\ufeff'

/-- What may come after a value. -/
def Follows (rest : List Char) : Prop :=
  ∀ c ∈ rest.head?, c = ',' ∨ c = ']' ∨ c = '\x7d' ∨ isSpace c = true

/-- A text that is read as a value where a value may end. -/
structure ReadsInside (text : List Char) (content : Value) : Prop where
  opens : Opens text
  reads : ∀ fuel rest, 2 * text.length ≤ fuel → Follows rest →
    value fuel (text ++ rest) = .ok (content, rest)

/-- A text that is read as a value whatever follows it. -/
structure Reads (text : List Char) (content : Value) : Prop where
  opens : Opens text
  reads : ∀ fuel rest, 2 * text.length ≤ fuel → value fuel (text ++ rest) =
    .ok (content, rest)

theorem Reads.inside {text : List Char} {content : Value}
    (h : Reads text content) :
    ReadsInside text content :=
  ⟨h.opens, fun fuel rest hfuel _ => h.reads fuel rest hfuel⟩

/-- The inside of a string that is read up to its closing quote. -/
def ReadsBody (body : List Char) (content : String) : Prop :=
  ∀ opening rest, stringBody opening 0 (body ++ '"' :: rest) =
    .ok (content.toList, rest)

theorem ReadsBody.reads {body : List Char} {content : String}
    (h : ReadsBody body content) :
    Reads ('"' :: body ++ ['"']) (.text content) where
  opens := ⟨'"', _, rfl, by decide, by decide, by decide⟩
  reads fuel rest hfuel := by
    cases fuel with
    | zero => simp at hfuel
    | succ fuel =>
        have hbody := h ('"' :: (body ++ '"' :: rest)) rest
        simp only [List.cons_append, List.append_assoc, List.nil_append,
          value, hbody, String.ofList_toList]

/-! ## Blanks -/

def IsLayout (space : List Char) : Prop :=
  ∀ c ∈ space, isSpace c = true

instance (space : List Char) : Decidable (IsLayout space) :=
  decidable_of_iff (space.all isSpace = true) List.all_eq_true

theorem isLayout_nil : IsLayout [] := by
  simp [IsLayout]

theorem skipSpace_cons {c : Char} (h : isSpace c = false) (rest : List Char) :
    skipSpace (c :: rest) = c :: rest := by
  simp [skipSpace, h]

theorem IsLayout.skipSpace_append {space : List Char} (h : IsLayout space)
    (rest : List Char) :
    skipSpace (space ++ rest) = skipSpace rest := by
  induction space with
  | nil => rfl
  | cons c space ih =>
      obtain ⟨hc, hspace⟩ := List.forall_mem_cons.mp h
      simpa [skipSpace, hc] using ih hspace

theorem IsLayout.skipSpace_cons {space : List Char} (h : IsLayout space)
    {c : Char} (hc : isSpace c = false) (rest : List Char) :
    skipSpace (space ++ c :: rest) = c :: rest := by
  rw [h.skipSpace_append, Json.skipSpace_cons hc]

theorem IsLayout.follows {space : List Char} (h : IsLayout space)
    {rest : List Char} (hrest : Follows rest) : Follows (space ++ rest) := by
  cases space with
  | nil => exact hrest
  | cons c space => simp [Follows, h c List.mem_cons_self]

theorem Opens.skipSpace_append {text : List Char} (h : Opens text)
    (rest : List Char) :
    skipSpace (text ++ rest) = text ++ rest := by
  obtain ⟨c, tail, rfl, hspace, -, -⟩ := h
  exact skipSpace_cons hspace _

/-! ## Items and fields -/

/-- A value in a collection, with the blanks around its text. -/
structure Item where
  before : List Char
  text : List Char
  after : List Char
  content : Value
  layout_before : IsLayout before
  layout_after : IsLayout after

def Item.padded (item : Item) : List Char :=
  item.before ++ (item.text ++ item.after)

/-- A field of an object: the blanks around its key, the inside of the key, and
its value. -/
structure Field where
  before : List Char
  body : List Char
  after : List Char
  key : String
  item : Item
  layout_before : IsLayout before
  layout_after : IsLayout after

namespace Field

variable (field : Field)

def text : List Char :=
  '"' :: (field.body ++ '"' :: (field.after ++ ':' :: field.item.padded))

def padded : List Char :=
  field.before ++ field.text

def value : Value × Value :=
  (.text field.key, field.item.content)

end Field

def listText (space : List Char) (items : List Item) : List Char :=
  '[' :: (space ++ separated (items.map Item.padded) ++ [']'])

def objectText (space : List Char) (fields : List Field) : List Char :=
  '\x7b' :: (space ++ separated (fields.map Field.padded) ++ ['\x7d'])

@[simp] theorem separated_singleton (part : List Char) :
    separated [part] = part := by
  simp [separated]

theorem separated_cons_cons (part next : List Char) (more : List (List Char)) :
    separated (part :: next :: more) =
      part ++ ',' :: separated (next :: more) := by
  simp [separated, List.intercalate_cons_cons]

theorem exists_separated_cons (part : List Char) (more : List (List Char)) :
    ∃ tail, separated (part :: more) = part ++ tail := by
  cases more with
  | nil => exact ⟨[], by simp⟩
  | cons next others => exact ⟨_, separated_cons_cons part next others⟩

/-! ## Lists -/

theorem Item.skipSpace_padded {item : Item} (h : Opens item.text)
    (rest : List Char) :
    skipSpace (item.padded ++ rest) = item.text ++ (item.after ++ rest) := by
  rw [Item.padded, List.append_assoc, item.layout_before.skipSpace_append,
    List.append_assoc, h.skipSpace_append]

theorem Item.value_padded {item : Item} (h : ReadsInside item.text item.content)
    {fuel : Nat} (hfuel : 2 * item.padded.length ≤ fuel) {c : Char}
    (hspace : isSpace c = false) (hc : c = ',' ∨ c = ']' ∨ c = '\x7d')
    (rest : List Char) :
    ∃ after, Json.value fuel (skipSpace (item.padded ++ c :: rest)) =
        .ok (item.content, after) ∧
      skipSpace after = c :: rest := by
  have hfollows : Follows (c :: rest) := by
    simp only [Follows, List.head?_cons, Option.mem_some_iff, forall_eq']
    tauto
  refine ⟨item.after ++ c :: rest, ?_,
    item.layout_after.skipSpace_cons hspace rest⟩
  rw [Item.skipSpace_padded h.opens]
  apply h.reads
  · simp only [Item.padded, List.length_append] at hfuel
    omega
  · exact item.layout_after.follows hfollows

theorem items_padded {written : List Item} (hne : written ≠ [])
    (h : ∀ item ∈ written, ReadsInside item.text item.content)
    (rest : List Char) (fuel : Nat)
    (hfuel : 2 * (separated (written.map Item.padded)).length < fuel) :
    items fuel (skipSpace
      (separated (written.map Item.padded) ++ ']' :: rest)) =
      .ok (written.map Item.content, rest) := by
  -- One unit of fuel goes with every item, and the item's own text pays for it.
  induction written generalizing fuel with
  | nil => exact absurd rfl hne
  | cons item more ih =>
      obtain ⟨fuel, rfl⟩ : ∃ previous, fuel = previous + 1 :=
        ⟨fuel - 1, by omega⟩
      obtain ⟨hitem, hmore⟩ := List.forall_mem_cons.mp h
      cases more with
      | nil =>
          simp only [List.map_cons, List.map_nil, separated_singleton]
            at hfuel ⊢
          have hlength : 2 * item.padded.length ≤ fuel := by omega
          obtain ⟨after, hread, hafter⟩ :=
            Item.value_padded hitem hlength (by decide) (.inr (.inl rfl)) rest
          rw [items, hread]
          simp only [hafter]
      | cons next others =>
          rw [List.map_cons, List.map_cons, separated_cons_cons] at hfuel ⊢
          rw [List.length_append, List.length_cons] at hfuel
          have hlength : 2 * item.padded.length ≤ fuel := by omega
          have hitems :=
            ih (List.cons_ne_nil _ _) hmore fuel (by rw [List.map_cons]; omega)
          obtain ⟨after, hread, hafter⟩ := Item.value_padded hitem hlength
            (by decide) (.inl rfl)
            (separated ((next :: others).map Item.padded) ++ ']' :: rest)
          rw [List.append_assoc, List.cons_append, ← List.map_cons,
            items, hread]
          simp only [hafter, hitems]
          rfl

theorem reads_listText {space : List Char} {written : List Item}
    (hspace : IsLayout space)
    (h : ∀ item ∈ written, ReadsInside item.text item.content) :
    Reads (listText space written) (.list (written.map Item.content)) where
  opens := ⟨'[', _, rfl, by decide, by decide, by decide⟩
  reads fuel rest hfuel := by
    simp only [listText, List.length_append, List.length_cons, List.length_nil]
      at hfuel
    obtain ⟨fuel, rfl⟩ : ∃ previous, fuel = previous + 1 := ⟨fuel - 1, by omega⟩
    rw [listText, List.cons_append, List.append_assoc, List.append_assoc,
      List.singleton_append, value]
    simp only [hspace.skipSpace_append]
    cases written with
    | nil =>
        have hclosing :=
          skipSpace_cons (show isSpace ']' = false by decide) rest
        simp only [List.map_nil, separated, List.intercalate_nil,
          List.nil_append, hclosing]
    | cons item more =>
        have hitems :=
          items_padded (List.cons_ne_nil _ _) h rest fuel (by omega)
        obtain ⟨tail, htext⟩ :=
          exists_separated_cons item.padded (more.map Item.padded)
        have hopens := (h item List.mem_cons_self).opens
        obtain ⟨c, others, hitem, -, hclosing, -⟩ := id hopens
        split
        · next heq =>
            rw [List.map_cons, htext, List.append_assoc,
              Item.skipSpace_padded hopens, hitem] at heq
            exact absurd (List.cons.inj heq).1 hclosing
        · rw [hitems]

/-! ## Objects -/

theorem Field.skipSpace_padded (field : Field) (rest : List Char) :
    skipSpace (field.padded ++ rest) = field.text ++ rest := by
  rw [Field.padded, List.append_assoc, field.layout_before.skipSpace_append]
  exact skipSpace_cons (by decide) _

/-- The first field is read up to what separates it from the next. -/
theorem members_padded_cons {field : Field}
    (hkey : ReadsBody field.body field.key)
    (h : ReadsInside field.item.text field.item.content) {fuel : Nat}
    (hfuel : 2 * field.padded.length ≤ fuel) {c : Char}
    (hspace : isSpace c = false) (hc : c = ',' ∨ c = '\x7d')
    (rest : List Char) :
    members (fuel + 1) (skipSpace (field.padded ++ c :: rest)) =
      if c = '\x7d' then .ok ([field.value], rest)
      else
        match members fuel (skipSpace rest) with
        | .ok (more, rest) => .ok (field.value :: more, rest)
        | .error stop => .error stop := by
  have hcolon := field.layout_after.skipSpace_cons
    (show isSpace ':' = false by decide) (field.item.padded ++ c :: rest)
  have hlength : 2 * field.item.padded.length ≤ fuel := by
    simp only [Field.padded, Field.text, List.length_append, List.length_cons]
      at hfuel
    omega
  obtain ⟨after, hread, hafter⟩ :=
    Item.value_padded h hlength hspace (by tauto) rest
  rw [Field.skipSpace_padded]
  simp only [Field.text, List.cons_append, List.append_assoc, members, hkey _ _,
    hcolon, hread, hafter, String.ofList_toList]
  obtain rfl | rfl := hc <;> rfl

theorem members_padded {written : List Field} (hne : written ≠ [])
    (hkeys : ∀ field ∈ written, ReadsBody field.body field.key)
    (h : ∀ field ∈ written, ReadsInside field.item.text field.item.content)
    (rest : List Char) (fuel : Nat)
    (hfuel : 2 * (separated (written.map Field.padded)).length < fuel) :
    members fuel (skipSpace
      (separated (written.map Field.padded) ++ '\x7d' :: rest)) =
      .ok (written.map Field.value, rest) := by
  induction written generalizing fuel with
  | nil => exact absurd rfl hne
  | cons field more ih =>
      obtain ⟨fuel, rfl⟩ : ∃ previous, fuel = previous + 1 :=
        ⟨fuel - 1, by omega⟩
      obtain ⟨hkey, hmoreKeys⟩ := List.forall_mem_cons.mp hkeys
      obtain ⟨hfield, hmore⟩ := List.forall_mem_cons.mp h
      cases more with
      | nil =>
          simp only [List.map_cons, List.map_nil, separated_singleton]
            at hfuel ⊢
          rw [members_padded_cons hkey hfield (by omega) (by decide) (.inr rfl),
            if_pos rfl]
      | cons next others =>
          have hcomma : ',' ≠ '\x7d' := by decide
          rw [List.map_cons, List.map_cons, separated_cons_cons] at hfuel ⊢
          rw [List.length_append, List.length_cons] at hfuel
          have hmembers := ih (List.cons_ne_nil _ _) hmoreKeys hmore fuel
            (by rw [List.map_cons]; omega)
          rw [List.append_assoc, List.cons_append, ← List.map_cons,
            members_padded_cons hkey hfield (by omega) (by decide) (.inl rfl),
            if_neg hcomma, hmembers]
          rfl

theorem reads_objectText {space : List Char} {written : List Field}
    (hspace : IsLayout space)
    (hkeys : ∀ field ∈ written, ReadsBody field.body field.key)
    (h : ∀ field ∈ written, ReadsInside field.item.text field.item.content) :
    Reads (objectText space written) (.ofFields (written.map Field.value)) where
  opens := ⟨'\x7b', _, rfl, by decide, by decide, by decide⟩
  reads fuel rest hfuel := by
    simp only [objectText, List.length_append, List.length_cons,
      List.length_nil] at hfuel
    obtain ⟨fuel, rfl⟩ : ∃ previous, fuel = previous + 1 := ⟨fuel - 1, by omega⟩
    rw [objectText, List.cons_append, List.append_assoc, List.append_assoc,
      List.singleton_append, value]
    simp only [hspace.skipSpace_append]
    cases written with
    | nil =>
        have hclosing :=
          skipSpace_cons (show isSpace '\x7d' = false by decide) rest
        simp only [List.map_nil, separated, List.intercalate_nil,
          List.nil_append, hclosing]
        rfl
    | cons field more =>
        have hmembers :=
          members_padded (List.cons_ne_nil _ _) hkeys h rest fuel (by omega)
        obtain ⟨tail, htext⟩ :=
          exists_separated_cons field.padded (more.map Field.padded)
        split
        · next heq =>
            rw [List.map_cons, htext, List.append_assoc, Field.skipSpace_padded]
              at heq
            exact absurd (List.cons.inj heq).1 (by decide)
        · rw [hmembers]

/-! ## Whole texts -/

/-- A whole text is one value with blanks around it. -/
theorem ReadsInside.decodeChars_eq {text : List Char} {content : Value}
    (h : ReadsInside text content) {before after : List Char}
    (hbefore : IsLayout before) (hafter : IsLayout after) :
    decodeChars (before ++ (text ++ after)) = .ok content := by
  have hfollows : Follows after := by
    have hnil : Follows [] := by simp [Follows]
    simpa using hafter.follows hnil
  have hread := h.reads (enoughFuel (before ++ (text ++ after))) after
    (by simp only [enoughFuel, List.length_append]; omega) hfollows
  have hskip : skipSpace (before ++ (text ++ after)) = text ++ after := by
    rw [hbefore.skipSpace_append, h.opens.skipSpace_append]
  have hend : skipSpace after = [] := by
    simpa [skipSpace] using hafter.skipSpace_append []
  -- The mark is no blank, and no value begins with it.
  have hmark : ∀ tail, before ++ (text ++ after) ≠ '\ufeff' :: tail := by
    intro tail heq
    cases before with
    | nil =>
        obtain ⟨c, rest, rfl, -, -, hmark⟩ := h.opens
        exact hmark (List.cons.inj heq).1
    | cons c before =>
        have hc := hbefore c List.mem_cons_self
        rw [(List.cons.inj heq).1] at hc
        exact absurd hc (by decide)
  have hdocument : document (before ++ (text ++ after)) = .ok content := by
    unfold document
    split
    · next heq => exact absurd heq (hmark _)
    · rw [hskip, hread]
      simp only [hend]
  rw [decodeChars, hdocument]

theorem Reads.decodeChars_eq {text : List Char} {content : Value}
    (h : Reads text content) :
    decodeChars text = .ok content := by
  simpa using h.inside.decodeChars_eq isLayout_nil isLayout_nil

end TraitIndex.Json
