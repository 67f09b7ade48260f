import Mathlib.Algebra.GroupWithZero.Nat
import TraitIndex.Proofs.Json.Content
import TraitIndex.Proofs.Json.Grammar
import TraitIndex.Proofs.Json.RoundTrip
import TraitIndex.Proofs.Script.Reading
import TraitIndex.Sidebar.Read

/-!
# What sidebar scripts say

The argument of the call is cut out at the parenthesis that closes it, whatever
parentheses stand in its strings.  It is an object that lists entries under
kinds; a kind that comes again keeps its place and takes the later entries.
Every entry that names a symbol is an item.
-/

namespace TraitIndex

namespace Assoc

variable {κ ν : Type} [DecidableEq κ]

theorem find?_ofList_eq (fields : List (κ × ν)) (key : κ) :
    (ofList fields).find? key =
      (fields.reverse.find? fun field => field.1 = key).map (·.2) := by
  induction fields using List.reverseRecOn with
  | nil => rfl
  | append_singleton fields field ih =>
      rw [ofList_concat, find?_insert, List.reverse_concat, List.find?_cons]
      by_cases h : field.1 = key
      · simp [h]
      · simp [h, Ne.symm h, ih]

end Assoc

/-! ## Objects with text keys -/

namespace Value

def textField (field : String × Value) : Value × Value :=
  (.text field.1, field.2)

theorem assign_text (key : String) (item : Value)
    (fields : Assoc String Value) :
    assign (.text key) item (fields.map textField) =
      (fields.insert key item).map textField := by
  induction fields with
  | nil => rfl
  | cons field rest ih =>
      by_cases h : field.1 = key
      · simp [assign, Assoc.insert, textField, equals, h]
      · simp only [assign, List.map_cons, textField, Assoc.insert, equals,
          beq_iff_eq, h, if_false]
        exact congrArg _ ih

theorem ofFields_text (fields : List (String × Value)) :
    ofFields (fields.map textField) =
      .mapping ((Assoc.ofList fields).map textField) := by
  have hfold (built : Assoc String Value) :
      (fields.map textField).foldl
      (fun built field => assign field.1 field.2 built)
          (built.map textField) =
        (fields.foldl (fun built field => Assoc.insert field.1 field.2 built)
          built).map
          textField := by
    induction fields generalizing built with
    | nil => rfl
    | cons field rest ih =>
        simp only [List.map_cons, List.foldl_cons]
        rw [← ih, ← assign_text]
        rfl
  exact congrArg Value.mapping (hfold [])

end Value

namespace Sidebar

open Value

/-! ## Entries -/

/-- The item an entry stands for, if it names a symbol. -/
def itemOf? : Value → Option SidebarItem
  | .list [name] => some ⟨name.toText, ""⟩
  | .list (name :: description :: _) =>
      some ⟨name.toText, if description.isTruthy then
        description.toText else ""⟩
  | .text name => some ⟨name, ""⟩
  | _ => none

/-- The entries in a list; what is no list holds none. -/
def entriesOf : Value → List Value
  | .list entries => entries
  | _ => []

/-- An entry that names a symbol and describes it. -/
def pairEntry (pair : String × String) : Value :=
  .list [.text pair.1, .text pair.2]

theorem itemOf?_pairEntry (pair : String × String) :
    itemOf? (pairEntry pair) = some ⟨pair.1, pair.2⟩ := by
  by_cases h : pair.2 = "" <;> simp [itemOf?, pairEntry, isTruthy, toText, h]

theorem filterMap_pairEntry (pairs : List (String × String)) :
    (pairs.map pairEntry).filterMap itemOf? = pairs.map fun pair =>
      ⟨pair.1, pair.2⟩ := by
  rw [List.filterMap_map, ← List.filterMap_eq_map]
  congr 1
  funext pair
  exact itemOf?_pairEntry pair

theorem itemOfValue_eq {entry : Value} (h : IsJson entry) :
    itemOfValue entry = .ok (itemOf? entry) := by
  cases h with
  | @list items hitems =>
      match items with
      | [] => rfl
      | [name] =>
          have hname := (hitems name (by simp)).printed_eq
          simp [itemOfValue, itemOf?, hname, bind, Except.bind, pure,
            Except.pure, isTruthy]
      | name :: description :: more =>
          have hname := (hitems name (by simp)).printed_eq
          have hdescription := (hitems description (by simp)).printed_eq
          by_cases hgiven : description.isTruthy = true <;>
            simp [itemOfValue, itemOf?, hname, hdescription, hgiven, bind,
              Except.bind, pure, Except.pure]
  | _ => rfl

theorem itemsOfValue_eq {entries : Value} (h : IsJson entries)
    (hlist : entries = .null ∨ ∃ items, entries = .list items) :
    itemsOfValue entries = .ok ((entriesOf entries).filterMap itemOf?) := by
  obtain rfl | ⟨items, rfl⟩ := hlist
  · rfl
  · cases h with
    | list hitems =>
        have hread : items.mapM itemOfValue = .ok (items.map itemOf?) :=
          mapM_eq_ok_map fun item hitem => itemOfValue_eq (hitems item hitem)
        have hvalues : itemsOfValue (.list items) =
            items.mapM itemOfValue >>= fun found =>
              .ok (found.filterMap id) := by
          cases items <;> rfl
        rw [hvalues, hread]
        change Except.ok ((items.map itemOf?).filterMap id) = _
        rw [List.filterMap_map]
        rfl

/-! ## Scripts -/

/-- A script that consists of a call for an object of lists: the blanks around
the call and inside its parentheses, the fields of the object, and whether a
semicolon ends it. -/
structure Call where
  before : List Char
  lead : List Char
  space : List Char
  fields : List Json.Field
  trail : List Char
  semicolon : Bool
  after : List Char
  blank_before : ∀ c ∈ before, Text.isBlank c = true
  blank_after : ∀ c ∈ after, Text.isBlank c = true
  layout_lead : Json.IsLayout lead
  layout_space : Json.IsLayout space
  layout_trail : Json.IsLayout trail
  stringOf_keys : ∀ field ∈ fields, Json.StringOf field.body field.key
  written : ∀ field ∈ fields, Json.Written field.item.text field.item.content
  lists : ∀ field ∈ fields,
    field.item.content = .null ∨ ∃ entries, field.item.content = .list entries

namespace Call

variable (call : Call)

def argument : List Char :=
  call.lead ++ (Json.objectText call.space call.fields ++ call.trail)

def text : List Char :=
  call.before ++ (opening ++ (call.argument ++
    (')' :: ((if call.semicolon then [';'] else []) ++ call.after))))

def raw : List (String × Value) :=
  call.fields.map fun field => (field.key, field.item.content)

def listed : List (String × List SidebarItem) :=
  call.raw.map fun field => (field.1, (entriesOf field.2).filterMap itemOf?)

/-- The entries under a kind: those of the last field with this key. -/
def entries (kind : String) : List Value :=
  ((call.fields.reverse.find? fun field => field.key = kind).map fun field =>
    entriesOf field.item.content).getD []

/-- The argument ends at the last parenthesis of the script, so at that of the
call. -/
theorem payload?_text : payload? call.text = some call.argument := by
  have hopening (rest : List Char) :
      (opening ++ rest).dropWhile Text.isBlank = opening ++ rest := rfl
  have hafter : ∀ c ∈ call.after.reverse, Text.isBlank c = true := by
    simpa using call.blank_after
  have hclosing : Text.isBlank ')' = false := by decide
  have hsemicolon : Text.isBlank ';' = false := by decide
  -- From the end the blanks go first, then the semicolon if there is one, then
  -- one parenthesis.
  unfold payload? text
  rw [List.dropWhile_append_of_pos call.blank_before, hopening,
    Text.stripInitial?_append]
  cases call.semicolon <;>
    simp [List.dropWhile_append_of_pos hafter, hclosing, hsemicolon]

theorem decodeChars_argument :
    Json.decodeChars call.argument =
      .ok (.mapping ((Assoc.ofList call.raw).map textField)) := by
  have hwritten :=
    Json.Written.object call.layout_space call.stringOf_keys call.written
  have hfields : call.fields.map Json.Field.value = call.raw.map textField := by
    rw [raw, List.map_map]
    rfl
  rw [argument, hwritten.readsInside.decodeChars_eq call.layout_lead
    call.layout_trail, hfields, ofFields_text]

theorem read_text (crate : String) :
    read (String.ofList call.text) crate =
      .ok ⟨crate, Assoc.ofList call.listed⟩ := by
  have hread := call.decodeChars_argument
  have hkinds : ((Assoc.ofList call.raw).map textField).mapM (fun field => do
      let items ← liftValue (itemsOfValue field.2)
      return (field.1.toText, items)) =
        Except.ok (Assoc.ofList call.listed) := by
    rw [List.mapM_map, listed, Assoc.ofList_map fun entries =>
      (entriesOf entries).filterMap itemOf?]
    refine mapM_eq_ok_map fun field hfield => ?_
    have hitems : itemsOfValue field.2 =
        .ok ((entriesOf field.2).filterMap itemOf?) := by
      apply itemsOfValue_eq
      · cases Json.isJson_of_decodeChars hread with
        | mapping _ hvalues =>
            exact hvalues (textField field) (List.mem_map_of_mem hfield)
      · obtain ⟨source, hsource, rfl⟩ :=
          List.mem_map.mp (Assoc.mem_of_mem_ofList hfield)
        exact call.lists source hsource
    simp only [Function.comp_apply, textField, hitems]
    rfl
  unfold read
  rw [String.toList_ofList, payload?_text]
  simp only [hread, hkinds]
  change Except.ok
    (SidebarIndex.mk crate (Assoc.ofList (Assoc.ofList call.listed))) = _
  rw [Assoc.ofList_of_nodup (Assoc.nodup_keys_ofList call.listed)]

theorem lookup_listed (crate kind : String) :
    SidebarIndex.lookup ⟨crate, Assoc.ofList call.listed⟩ kind =
      (call.entries kind).filterMap itemOf? := by
  rw [SidebarIndex.lookup, Assoc.find?_ofList_eq, listed, raw, entries,
    List.map_map, ← List.map_reverse, List.find?_map]
  cases hfound : call.fields.reverse.find? fun field => field.key = kind with
  | none => simp [hfound, Function.comp_def]
  | some field => simp [hfound, Function.comp_def]

end Call

theorem itemCount_eq {index : SidebarIndex} (h : index.items.keys.Nodup) :
    index.itemCount =
      (index.kinds.map fun kind => (index.lookup kind).length).sum := by
  have hlengths : index.items.map (fun field => field.2.length) =
      index.items.map fun field => (index.lookup field.1).length := by
    refine List.map_congr_left fun field hfield => ?_
    rw [SidebarIndex.lookup, Assoc.find?_of_mem h hfield, Option.getD_some]
  rw [SidebarIndex.itemCount, List.length_flatMap, hlengths, SidebarIndex.kinds,
    Assoc.keys, List.map_map]
  rfl

def kindField (key : String) (item : Json.Item) : Json.Field :=
  { Json.Field.bare (key, item.text, item.content) with
    before := ['\n']
    layout_before := by decide }

/-- Entries of two kinds, of which one comes twice. -/
def trickyFields : List Json.Field := [
  kindField "fn" (.ofItems [] [.ofItems [] [.ofText "old", .ofText ""]]),
  kindField "mod" (.bare ("null".toList, .null)),
  kindField "fn" (.ofItems [' '] [
    .ofItems [] [.ofText "a)", .ofText "b);"],
    .ofText "initSidebarItems(",
    .ofItems ['\t'] []])]

theorem isWritten_trickyFields :
    ∀ field ∈ trickyFields, field.item.IsWritten := by
  have hpair (first second : String) :
      (Json.Item.ofItems [] [.ofText first, .ofText second]).IsWritten :=
    .ofItems (by decide) (List.forall_mem_cons.mpr
      ⟨.ofText first, List.forall_mem_singleton.mpr (.ofText second)⟩)
  have hempty : (Json.Item.ofItems ['\t'] []).IsWritten :=
    .ofItems (by decide) (by simp)
  refine List.forall_mem_cons.mpr ⟨?_, List.forall_mem_cons.mpr
    ⟨Json.Written.name List.mem_cons_self, List.forall_mem_singleton.mpr ?_⟩⟩
  · exact Json.Item.IsWritten.ofItems (by decide)
      (List.forall_mem_singleton.mpr (hpair _ _))
  · exact Json.Item.IsWritten.ofItems (by decide)
      (List.forall_mem_cons.mpr
        ⟨hpair _ _, List.forall_mem_cons.mpr
          ⟨.ofText _, List.forall_mem_singleton.mpr hempty⟩⟩)

theorem stringOf_trickyFields :
    ∀ field ∈ trickyFields, Json.StringOf field.body field.key :=
  List.forall_mem_cons.mpr ⟨Json.stringOf_written _, List.forall_mem_cons.mpr
    ⟨Json.stringOf_written _, List.forall_mem_singleton.mpr
      (Json.stringOf_written _)⟩⟩

def trickyCall : Call where
  before := ['\n']
  lead := [' ']
  space := []
  fields := trickyFields
  trail := ['\n']
  semicolon := true
  after := ['\n']
  blank_before := List.forall_mem_singleton.mpr (by decide)
  blank_after := List.forall_mem_singleton.mpr (by decide)
  layout_lead := by decide
  layout_space := by decide
  layout_trail := by decide
  stringOf_keys := stringOf_trickyFields
  written := isWritten_trickyFields
  lists := List.forall_mem_cons.mpr ⟨.inr ⟨_, rfl⟩,
    List.forall_mem_cons.mpr
      ⟨.inl rfl, List.forall_mem_singleton.mpr (.inr ⟨_, rfl⟩)⟩⟩

end Sidebar

end TraitIndex
