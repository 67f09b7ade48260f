import TraitIndex.Yaml.Construct
import TraitIndex.Yaml.Parser

/-!
Reading YAML.

An object that contains itself has no finite value.  It is followed until it
comes up inside itself, and a mark is put there.  Where the inner occurrence is
depends on where one starts, so a document is also given with its outermost
levels followed first and everything below taken on its own.
-/

namespace TraitIndex.Yaml

def objectAt (objects : Objects) (id : NodeId) : Object :=
  (objects[id]?).join.getD default

def enclosingMark : Object → Value
  | .list _ => .enclosing true
  | .pairs _ => .enclosing true
  | _ => .enclosing false

def unrollInside (objects : Objects) : Nat → List NodeId → NodeId → Value
  | 0, _, id => enclosingMark (objectAt objects id)
  | fuel + 1, path, id =>
      let object := objectAt objects id
      let inside := unrollInside objects fuel (id :: path)
      if path.contains id then
        match object with
        | .scalar value => value
        | _ => enclosingMark object
      else
        match object with
        | .scalar value => value
        | .list items => .list (items.map inside)
        | .mapping fields =>
            .mapping (fields.map fun field => (field.1, inside field.2))
        | .set members => .set members
        | .pairs items =>
            .list (items.map fun item => .pair (inside item.1) (inside item.2))

def unroll (objects : Objects) (id : NodeId) : Value :=
  unrollInside objects (objects.size + 1) [] id

/-- The value of an object whose outermost levels are followed whatever they
contain.  Each level is a mapping or, when `lists` allows it, a list. -/
def unrollLevels (objects : Objects) : List Bool → NodeId → Value
  | [], id => unroll objects id
  | lists :: levels, id =>
      match objectAt objects id, lists with
      | .mapping fields, false =>
          .mapping (fields.map fun field =>
            (field.1, unrollLevels objects levels field.2))
      | .list items, true => .list (items.map (unrollLevels objects levels))
      | _, true => unrollLevels objects levels id
      | _, false => unroll objects id

def decodeLevels (levels : List Bool) (text : Text.Pieces) :
    Except DecodeFault Value := do
  match ← parse text with
  | (_, none) => return .null
  | (graph, some root) =>
      let objects ← construct graph root
      return unrollLevels objects levels root

def decodeSettings (text : Text.Pieces) : Except DecodeFault Value :=
  decodeLevels [false] text

def decodeDescriptors (text : Text.Pieces) : Except DecodeFault Value :=
  decodeLevels [false, true, false] text

end TraitIndex.Yaml
