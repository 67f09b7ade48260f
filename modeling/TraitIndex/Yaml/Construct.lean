import TraitIndex.Value.SetOrder
import TraitIndex.Yaml.Node
import TraitIndex.Yaml.Scalars

/-!
From nodes to objects.

Every node makes one object, however often it is named.  A collection is made
empty and filled later, in the order in which collections were met, so that it
can contain itself.

Keys that are equal are one key.  The number that is none is a single one
wherever it is given by its name; where it comes out of a calculation it is
another one every time.
-/

namespace TraitIndex.Yaml

/-- What a node has been made into.  Items are named by their nodes; keys stand
for themselves. -/
inductive Object where
  | scalar (value : Value)
  | list (items : List NodeId)
  | mapping (fields : List (Value × NodeId))
  | set (members : List Value)
  | pairs (items : List (NodeId × NodeId))
  deriving Repr, Inhabited

structure Builder where
  graph : Graph
  objects : Array (Option Object)
  waiting : List NodeId

abbrev Build (α : Type) := StateT Builder (Except DecodeFault) α

/-! ## Merge keys

A field under a merge key is replaced by the fields of the mappings it names;
they come before the fields of the mapping itself.
-/

def nodeAt (graph : Graph) (id : NodeId) : Node :=
  graph[id]?.getD default

def fieldsAt (graph : Graph) (id : NodeId) : List (NodeId × NodeId) :=
  match (nodeAt graph id).content with
  | .mapping fields => fields
  | _ => []

def isMapping (graph : Graph) (id : NodeId) : Bool :=
  match (nodeAt graph id).content with
  | .mapping _ => true
  | _ => false

def setFields (graph : Graph) (id : NodeId)
    (fields : List (NodeId × NodeId)) : Graph :=
  graph.update id fun node => { node with content := .mapping fields }

mutual

/-- A graph in which a mapping has its merge keys resolved from the given place
on; `merged` holds the fields merged so far. -/
def mergeFrom : Nat → NodeId → Nat → List (NodeId × NodeId) → Graph →
    Except DecodeFault Graph
  | 0, _, _, _, graph => .ok graph
  | fuel + 1, id, place, merged, graph => do
      let fields := fieldsAt graph id
      match fields[place]? with
      | none =>
          if merged.isEmpty then return graph
          else return setFields graph id (merged ++ fields)
      | some (key, value) =>
          match (nodeAt graph key).tag with
          | .merge =>
              let graph := setFields graph id (fields.eraseIdx place)
              match (nodeAt graph value).content with
              | .mapping _ => do
                  let graph ← mergeFrom fuel value 0 [] graph
                  mergeFrom fuel id place (merged ++ fieldsAt graph value) graph
              | .sequence items => do
                  let (graph, lists) ← mergeEach fuel items graph
                  mergeFrom fuel id place
                    (merged ++ lists.reverse.flatten) graph
              | .scalar _ => malformed
          | .value =>
              mergeFrom fuel id (place + 1) merged
                (graph.update key fun node => { node with tag := .str })
          | _ => mergeFrom fuel id (place + 1) merged graph

def mergeEach : Nat → List NodeId → Graph →
    Except DecodeFault (Graph × List (List (NodeId × NodeId)))
  | 0, _, graph => .ok (graph, [])
  | _ + 1, [], graph => .ok (graph, [])
  | fuel + 1, item :: items, graph => do
      if !isMapping graph item then malformed
      else
        let graph ← mergeFrom fuel item 0 [] graph
        let fields := fieldsAt graph item
        let (graph, lists) ← mergeEach fuel items graph
        return (graph, fields :: lists)

end

/-- Fuel for resolving merge keys: every field of every mapping may be looked
at, and every item of every sequence. -/
def mergeFuel (graph : Graph) : Nat :=
  let size := graph.foldl (fun size node =>
    match node.content with
    | .scalar _ => size + 1
    | .sequence items => size + items.length + 1
    | .mapping fields => size + fields.length + 1) 0
  4 * size + 4

/-! ## Making objects -/

/-- A key of a mapping, and the node that it is made from if it differs from all
that is made from other nodes. -/
structure Key where
  value : Value
  only : Option NodeId
  deriving Repr, Inhabited

def Key.same (a b : Key) : Bool :=
  a.only = b.only && a.value.equals b.value

/-- The text of a scalar.  A mapping with a value key counts as what stands
under it.  When there are more steps than nodes, they go round in a circle. -/
def scalarText (graph : Graph) : Nat → NodeId → Except DecodeFault String
  | 0, _ => throw .endless
  | fuel + 1, id =>
      match (nodeAt graph id).content with
      | .scalar text => .ok text
      | .sequence _ => malformed
      | .mapping fields =>
          match fields.find? fun field => (nodeAt graph field.1).tag =
            .value with
          | some field => scalarText graph fuel field.2
          | none => malformed

namespace Builder

def initial (graph : Graph) (id : NodeId) : Except DecodeFault Object :=
  match (nodeAt graph id).tag with
  | .seq => .ok (.list [])
  | .map => .ok (.mapping [])
  | .set => .ok (.set [])
  | .omap => .ok (.pairs [])
  | .pairs => .ok (.pairs [])
  | .timestamp => do
      let text ← scalarText graph (graph.size + 1) id
      if isMapping graph id then throw (.value (.notText "list"))
      let value ← valueOfScalar .timestamp text
      return .scalar value
  | tag => do
      let text ← scalarText graph (graph.size + 1) id
      let value ← valueOfScalar tag text
      return .scalar value

def setObject (id : NodeId) (object : Object) : Build Unit :=
  modify fun builder =>
    { builder with objects := builder.objects.setIfInBounds id (some object) }

def make (id : NodeId) : Build Object := do
  let builder ← get
  match (builder.objects[id]?).join with
  | some object => return object
  | none =>
      let object ← (initial builder.graph id : Except DecodeFault Object)
      setObject id object
      match object with
      | .scalar _ => return object
      | _ =>
          modify fun builder =>
            { builder with waiting := builder.waiting ++ [id] }
          return object

/-- Whether the value of a node is the number that is none, and is not given by
its name. -/
def isOwnNan (graph : Graph) (id : NodeId) (value : Value) : Bool :=
  match value, scalarText graph (graph.size + 1) id with
  | .float .nan, .ok text => !namesNan text.toList
  | _, _ => false

def makeKey (id : NodeId) : Build Key := do
  match ← make id with
  | .scalar value =>
      return ⟨value, if isOwnNan (← get).graph id value then some id else none⟩
  | _ => throw .malformed

def assign (key : Key) (value : NodeId) :
    List (Key × NodeId) → List (Key × NodeId)
  | [] => [(key, value)]
  | field :: rest =>
      if field.1.same key then (field.1, value) :: rest
      else field :: assign key value rest

def makeFields (built : List (Key × NodeId)) :
    List (NodeId × NodeId) → Build (List (Key × NodeId))
  | [] => return built
  | (key, value) :: rest => do
      let key ← makeKey key
      let _ ← make value
      makeFields (assign key value built) rest

def mappingFields (id : NodeId) : Build (List (Value × NodeId)) := do
  let builder ← get
  if !isMapping builder.graph id then throw .malformed
  let graph ← (mergeFrom (mergeFuel builder.graph) id 0 []
    builder.graph : Except DecodeFault Graph)
  set { builder with graph := graph }
  let fields ← makeFields [] (fieldsAt graph id)
  return fields.map fun field => (field.1.value, field.2)

def makePairs : List NodeId → Build (List (NodeId × NodeId))
  | [] => return []
  | item :: rest => do
      match (nodeAt (← get).graph item).content with
      | .mapping [(key, value)] =>
          let _ ← make key
          let _ ← make value
          return (key, value) :: (← makePairs rest)
      | _ => throw .malformed

def itemsOf (id : NodeId) : Build (List NodeId) := do
  match (nodeAt (← get).graph id).content with
  | .sequence items => return items
  | _ => throw .malformed

def fill (id : NodeId) : Build Unit := do
  match (nodeAt (← get).graph id).tag with
  | .seq =>
      let items ← itemsOf id
      items.forM fun item => do let _ ← make item
      setObject id (.list items)
  | .map => setObject id (.mapping (← mappingFields id))
  | .set =>
      setObject id (.set (Value.inSetOrder ((← mappingFields id).map (·.1))))
  | _ => setObject id (.pairs (← makePairs (← itemsOf id)))

def fillAll : Nat → Build Unit
  | 0 => return
  | fuel + 1 => do
      let builder ← get
      match builder.waiting with
      | [] => return
      | id :: waiting =>
          set { builder with waiting := waiting }
          fill id
          fillAll fuel

def document (root : NodeId) : Build Unit := do
  let _ ← make root
  fillAll ((← get).graph.size + 1)

end Builder

abbrev Objects := Array (Option Object)

def construct (graph : Graph) (root : NodeId) : Except DecodeFault Objects := do
  let start : Builder := ⟨graph, Array.replicate graph.size none, []⟩
  let (_, builder) ← (Builder.document root).run start
  return builder.objects

end TraitIndex.Yaml
