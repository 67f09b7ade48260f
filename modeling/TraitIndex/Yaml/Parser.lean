import TraitIndex.Yaml.Node
import TraitIndex.Yaml.Scanner

/-!
From tokens to nodes.

The grammar is that of YAML 1.1 with its liberties: a value may be missing, a
sequence may stand at the indentation of the mapping it belongs to, and a pair
in a flow sequence is a mapping of its own.
-/

namespace TraitIndex.Yaml

/-- The tokens that are left, the nodes made so far, the nodes that have an
anchor, and what the handles of tags stand for. -/
structure Parser where
  tokens : List Token
  nodes : Graph
  anchors : Assoc String NodeId
  handles : Assoc String String

abbrev Parse (α : Type) := StateT Parser (Except DecodeFault) α

namespace Parser

/-- The token that comes next.  Looking at it meets the fault of the scanner, if
it had to read on that far. -/
def next? : Parse (Option Token) := do
  match (← get).tokens.head? with
  | some (.broken fault) => throw fault
  | token => return token

def skip : Parse Unit :=
  modify fun parser => { parser with tokens := parser.tokens.drop 1 }

def sees (expected : List Token) : Parse Bool := do
  match ← next? with
  | some token => return expected.contains token
  | none => return false

def unexpected {α : Type} : Parse α :=
  throw .malformed

def expect (token : Token) : Parse Unit := do
  if ← sees [token] then skip else unexpected

/-! ## Nodes -/

def addNode (node : Node) : Parse NodeId :=
  modifyGet fun parser =>
    (parser.nodes.size, { parser with nodes := parser.nodes.push node })

/-- Names a node by an anchor, which no earlier node may have. -/
def bindAnchor (anchor : Option String) (id : NodeId) : Parse Unit := do
  match anchor with
  | none => return
  | some name =>
      modify fun parser =>
        { parser with anchors := parser.anchors.insert name id }

def setContent (id : NodeId) (content : Content) : Parse Unit :=
  modify fun parser => { parser with
    nodes :=
      parser.nodes.update id fun node => { node with content := content } }

structure Properties where
  anchor : Option String
  tag : Option String

def Properties.isEmpty (properties : Properties) : Bool :=
  properties.anchor.isNone && properties.tag.isNone

def anchor? : Parse (Option String) := do
  match ← next? with
  | some (.anchor name) => skip; return some name
  | _ => return none

def tag? : Parse (Option (Option String × String)) := do
  match ← next? with
  | some (.tag handle name) => skip; return some (handle, name)
  | _ => return none

def fullTag (tag : Option String × String) : Parse String := do
  match tag with
  | (none, name) => return name
  | (some handle, name) =>
      match (← get).handles.find? handle with
      | some start => return start ++ name
      | none => throw .malformed

def properties : Parse Properties := do
  match ← anchor? with
  | some name => return ⟨some name, ← (← tag?).mapM fullTag⟩
  | none =>
      match ← tag? with
      | some tag =>
          let anchor ← anchor?
          return ⟨anchor, some (← fullTag tag)⟩
      | none => return ⟨none, none⟩

def scalarTag (tag : Option String) (text : String) (isPlain : Bool) : Tag :=
  match tag with
  | some "!" => tagOfPlain text.toList
  | some name => .ofName name
  | none => if isPlain then tagOfPlain text.toList else .str

def collectionTag (tag : Option String) (usual : Tag) : Tag :=
  match tag with
  | some "!" => usual
  | some name => .ofName name
  | none => usual

def scalarNode (properties : Properties) (text : String) (isPlain : Bool) :
    Parse NodeId := do
  let id ← addNode ⟨scalarTag properties.tag text isPlain, .scalar text⟩
  bindAnchor properties.anchor id
  return id

def missingNode : Parse NodeId :=
  scalarNode ⟨none, none⟩ "" true

def collectionNode (properties : Properties) (usual : Tag)
    (content : Parse Content) :
    Parse NodeId := do
  let id ← addNode ⟨collectionTag properties.tag usual, .sequence []⟩
  bindAnchor properties.anchor id
  let content ← content
  setContent id content
  return id

def aliasNode (name : String) : Parse NodeId := do
  match (← get).anchors.find? name with
  | some id => return id
  | none => throw .malformed

/-! ## Collections

`isBlock` says that a block collection may start here, `indentless` that a
sequence may start without being indented.
-/

mutual

def node : Nat → Bool → Bool → Parse NodeId
  | 0, _, _ => unexpected
  | fuel + 1, isBlock, indentless => do
      match ← next? with
      | some (.alias name) => skip; aliasNode name
      | _ =>
          let properties ← properties
          let token ← next?
          if let some name := properties.anchor then
            if ((← get).anchors.find? name).isSome then throw .malformed
          match token with
          | some .blockEntry =>
              if indentless then
                collectionNode properties .seq do
                  return .sequence (← indentlessItems fuel)
              else emptyNode properties
          | some (.scalar text isPlain) =>
              skip; scalarNode properties text isPlain
          | some .flowSequenceStart =>
              skip
              collectionNode properties .seq do
                return .sequence (← flowItems fuel true)
          | some .flowMappingStart =>
              skip
              collectionNode properties .map do
                return .mapping (← flowFields fuel true)
          | some .blockSequenceStart =>
              if isBlock then
                skip
                collectionNode properties .seq do
                  return .sequence (← blockItems fuel)
              else emptyNode properties
          | some .blockMappingStart =>
              if isBlock then
                skip
                collectionNode properties .map do
                  return .mapping (← blockFields fuel)
              else emptyNode properties
          | _ => emptyNode properties
where
  emptyNode (properties : Properties) : Parse NodeId := do
    if properties.isEmpty then unexpected else scalarNode properties "" true

def nodeUnless : Nat → List Token → Bool → Bool → Parse NodeId
  | 0, _, _, _ => unexpected
  | fuel + 1, ends, isBlock, indentless => do
      if ← sees ends then missingNode else node fuel isBlock indentless

def blockItems : Nat → Parse (List NodeId)
  | 0 => unexpected
  | fuel + 1 => do
      if ← sees [.blockEntry] then
        skip
        let item ← nodeUnless fuel [.blockEntry, .blockEnd] true false
        return item :: (← blockItems fuel)
      else
        expect .blockEnd
        return []

def indentlessItems : Nat → Parse (List NodeId)
  | 0 => unexpected
  | fuel + 1 => do
      if ← sees [.blockEntry] then
        skip
        let item ← nodeUnless fuel [.blockEntry, .key, .value, .blockEnd]
          true false
        return item :: (← indentlessItems fuel)
      else return []

def blockFields : Nat → Parse (List (NodeId × NodeId))
  | 0 => unexpected
  | fuel + 1 => do
      if ← sees [.key] then
        skip
        let key ← nodeUnless fuel [.key, .value, .blockEnd] true true
        let value ←
          if ← sees [.value] then
            skip
            nodeUnless fuel [.key, .value, .blockEnd] true true
          else missingNode
        return (key, value) :: (← blockFields fuel)
      else
        expect .blockEnd
        return []

def flowItems : Nat → Bool → Parse (List NodeId)
  | 0, _ => unexpected
  | fuel + 1, isFirst => do
      if ← sees [.flowSequenceEnd] then skip; return []
      if !isFirst then expect .flowEntry
      if ← sees [.key] then
        let item ← flowPair fuel
        return item :: (← flowItems fuel false)
      else if ← sees [.flowSequenceEnd] then
        skip
        return []
      else
        let item ← node fuel false false
        return item :: (← flowItems fuel false)

def flowPair : Nat → Parse NodeId
  | 0 => unexpected
  | fuel + 1 => do
      skip
      collectionNode ⟨none, none⟩ .map do
        let key ← nodeUnless fuel [.value, .flowEntry, .flowSequenceEnd]
          false false
        let value ←
          if ← sees [.value] then
            skip
            nodeUnless fuel [.flowEntry, .flowSequenceEnd] false false
          else missingNode
        return .mapping [(key, value)]

def flowFields : Nat → Bool → Parse (List (NodeId × NodeId))
  | 0, _ => unexpected
  | fuel + 1, isFirst => do
      if ← sees [.flowMappingEnd] then skip; return []
      if !isFirst then expect .flowEntry
      if ← sees [.key] then
        skip
        let key ← nodeUnless fuel [.value, .flowEntry, .flowMappingEnd]
          false false
        let value ←
          if ← sees [.value] then
            skip
            nodeUnless fuel [.flowEntry, .flowMappingEnd] false false
          else missingNode
        return (key, value) :: (← flowFields fuel false)
      else if ← sees [.flowMappingEnd] then
        skip
        return []
      else
        let key ← node fuel false false
        let value ← missingNode
        return (key, value) :: (← flowFields fuel false)

end

/-! ## Documents -/

def standardHandles : Assoc String String := [("!", "!"), ("!!", standardTags)]

/-- The directives before a document: the version may be given once and must be
1, a handle may not be given twice. -/
def directives : Nat → Bool → Assoc String String → Parse (Assoc String String)
  | 0, _, handles => return handles
  | fuel + 1, versionGiven, handles => do
      match ← next? with
      | some (.directive (.version major _)) =>
          skip
          if versionGiven || major != 1 then throw .malformed
          directives fuel true handles
      | some (.directive (.handle handle start)) =>
          skip
          if (handles.find? handle).isSome then throw .malformed
          directives fuel versionGiven (handles ++ [(handle, start)])
      | some (.directive .other) => skip; directives fuel versionGiven handles
      | _ => return handles

def skipDocumentEnds : Nat → Parse Unit
  | 0 => return
  | fuel + 1 => do
      if ← sees [.documentEnd] then
        skip
        skipDocumentEnds fuel

def explicitContent (fuel : Nat) : Parse NodeId := do
  match ← next? with
  | none => missingNode
  | some (.directive _) => missingNode
  | some .documentStart => missingNode
  | some .documentEnd => missingNode
  | some _ => node fuel true false

def document : Parse (Option NodeId) := do
  let fuel := 4 * (← get).tokens.length + 4
  let root ← match ← next? with
    | none => pure none
    | some .documentStart => explicit fuel
    | some (.directive _) => explicit fuel
    | some _ => some <$> node fuel true false
  skipDocumentEnds fuel
  match ← next? with
  | none => return root
  | some _ =>
      let _ ← directives fuel false []
      unexpected
where
  explicit (fuel : Nat) : Parse (Option NodeId) := do
    let handles ← directives fuel false []
    modify fun parser => { parser with handles := handles ++ standardHandles }
    expect .documentStart
    some <$> explicitContent fuel

end Parser

def parse (text : Text.Pieces) :
    Except DecodeFault (Graph × Option NodeId) := do
  let start : Parser := ⟨tokens text, #[], [], Parser.standardHandles⟩
  let (root, parser) ← Parser.document.run start
  return (parser.nodes, root)

end TraitIndex.Yaml
