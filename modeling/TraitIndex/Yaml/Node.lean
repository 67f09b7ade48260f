import TraitIndex.Assoc
import TraitIndex.Yaml.Tag

/-!
The nodes of a YAML document.

A node is named by its place in the list of all nodes of the document.  An alias
names a node that is already there, which may be a collection the alias itself
stands in.
-/

namespace TraitIndex.Yaml

abbrev NodeId := Nat

inductive Content where
  | scalar (text : String)
  | sequence (items : List NodeId)
  | mapping (fields : List (NodeId × NodeId))
  deriving DecidableEq, Repr, Inhabited

structure Node where
  tag : Tag
  content : Content
  deriving DecidableEq, Repr

instance : Inhabited Node := ⟨⟨.null, .scalar ""⟩⟩

abbrev Graph := Array Node

def Graph.update (graph : Graph) (id : NodeId) (change : Node → Node) : Graph :=
  graph.modify id change

end TraitIndex.Yaml
