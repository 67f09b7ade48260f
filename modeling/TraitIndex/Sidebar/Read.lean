import TraitIndex.Fault
import TraitIndex.Json.Decode
import TraitIndex.Sidebar.Index
import TraitIndex.Text.Blank

/-!
Reading the sidebar items of a crate.

The items are the one argument of a call that makes up the whole script, with
blanks around it and perhaps a semicolon behind it.
-/

namespace TraitIndex.Sidebar

def opening : List Char := "initSidebarItems(".toList

def payload? (text : List Char) : Option (List Char) := do
  let argument ← Text.stripInitial? opening (text.dropWhile Text.isBlank)
  match argument.reverse.dropWhile Text.isBlank with
  | ';' :: ')' :: inner => some inner.reverse
  | ')' :: inner => some inner.reverse
  | _ => none

/-- The item of one entry: a list names a symbol and perhaps describes it, a
text only names it.  Anything else is no item. -/
def itemOfValue : Value → Except ValueFault (Option SidebarItem)
  | .list (name :: rest) => do
      let symbolName ← name.printed
      let description := rest.headD (.text "")
      if description.isTruthy then
        return some ⟨symbolName, ← description.printed⟩
      else return some ⟨symbolName, ""⟩
  | .text name => .ok (some ⟨name, ""⟩)
  | _ => .ok none

/-- The items of one kind.  What counts as not given holds no items. -/
def itemsOfValue (entries : Value) : Except ValueFault (List SidebarItem) := do
  let values ← if entries.isTruthy then entries.elements else .ok []
  let items ← values.mapM itemOfValue
  return items.filterMap id

def read (text crate : String) : Except Fault SidebarIndex :=
  match payload? text.toList with
  | none => .error (.format (.notSidebar crate))
  | some argument =>
      match Json.decodeChars argument with
      | .error (.malformed cause) => .error (.format (.badSidebar crate cause))
      | .error (.value fault) => .error (.value fault)
      | .ok (.mapping fields) => do
          let kinds ← fields.mapM fun field => do
            let items ← liftValue (itemsOfValue field.2)
            return (field.1.toText, items)
          return ⟨crate, Assoc.ofList kinds⟩
      | .ok _ => .error (.format (.sidebarNotObject crate))

end TraitIndex.Sidebar
