import TraitIndex.Proofs.Yaml.Scanning
import TraitIndex.Yaml.Decode

/-!
# Parsing a text that breaks off

A document ends where its tokens do.  So whoever reads one looks at the last
token, and where the text breaks off that token is a fault.
-/

namespace TraitIndex.Yaml

namespace Parser

/-! ## What lies ahead -/

/-- A fault is met, at the latest, with the last token. -/
def Unfinished (parser : Parser) : Prop :=
  ∃ fault, .broken fault ∈ parser.tokens

def UnfinishedBeyond (parser : Parser) : Prop :=
  ∃ fault, .broken fault ∈ parser.tokens.drop 1

theorem UnfinishedBeyond.unfinished {parser : Parser}
    (h : parser.UnfinishedBeyond) :
    parser.Unfinished :=
  h.imp fun _ => List.mem_of_mem_drop

/-- Whenever a step begins at a parser of one kind and succeeds, it ends at one
of the other. -/
def Leads {α : Type} (before : Parser → Prop) (step : Parse α)
    (after : Parser → Prop) : Prop :=
  ∀ parser value next, before parser → step.run parser = .ok (value, next) →
    after next

namespace Leads

variable {α β : Type} {before middle after : Parser → Prop}

theorem pure (h : ∀ parser, before parser → after parser) (value : α) :
    Leads before (Pure.pure value : Parse α) after := by
  intro parser found next hbefore hrun
  obtain ⟨-, rfl⟩ := Prod.mk.inj (Except.ok.inj hrun)
  exact h parser hbefore

theorem done (value : α) : Leads before (Pure.pure value : Parse α) before :=
  .pure (fun _ => id) value

theorem throw (fault : DecodeFault) :
    Leads before (MonadExcept.throw fault : Parse α) after := by
  intro parser value next hbefore hrun
  cases hrun

theorem bind {first : Parse α} {rest : α → Parse β}
    (h : Leads before first middle)
    (hrest : ∀ value, Leads middle (rest value) after) :
    Leads before (first >>= rest) after := by
  intro parser value next hbefore hrun
  obtain ⟨read, hread, hrun⟩ := exists_of_bind_eq_ok hrun
  exact hrest _ _ _ _ (h _ _ _ hbefore hread) hrun

theorem map {f : α → β} {step : Parse α} (h : Leads before step after) :
    Leads before (f <$> step) after := by
  intro parser value next hbefore hrun
  obtain ⟨read, hread, hrun⟩ := exists_of_bind_eq_ok hrun
  obtain ⟨-, rfl⟩ := Prod.mk.inj (Except.ok.inj hrun)
  exact h _ _ _ hbefore hread

/-- A check that may fail before all that comes. -/
theorem check {refused : Prop} [Decidable refused] {fault : DecodeFault}
    {rest : Unit → Parse α} (h : ∀ start, Leads before (rest start) after) :
    Leads before
      (if refused then do
        let start ← MonadExcept.throw fault
        rest start
      else rest ()) after := by
  split
  · exact .bind (.throw fault) h
  · exact h ()

theorem mono {step : Parse α} {stronger : Parser → Prop}
    (h : Leads before step after)
    (hbefore : ∀ parser, stronger parser → before parser) :
    Leads stronger step after :=
  fun parser value next hstronger hrun =>
    h parser value next (hbefore parser hstronger) hrun

theorem get : Leads before (MonadState.get : Parse Parser) before := by
  intro parser value next hbefore hrun
  obtain ⟨-, rfl⟩ := Prod.mk.inj (Except.ok.inj hrun)
  exact hbefore

theorem change {f : Parser → Parser}
    (h : ∀ parser, before parser → after (f parser)) :
    Leads before (modify f : Parse Unit) after := by
  intro parser value next hbefore hrun
  obtain ⟨-, rfl⟩ := Prod.mk.inj (Except.ok.inj hrun)
  exact h parser hbefore

end Leads

/-- What is known from looking at the next token may be forgotten. -/
theorem Leads.beyond {α : Type} {step : Parse α} {after : Parser → Prop}
    (h : Leads Unfinished step after) : Leads UnfinishedBeyond step after :=
  h.mono fun _ => UnfinishedBeyond.unfinished

/-- A step that may be taken anywhere, as it leaves a fault ahead that was
ahead. -/
abbrev Onward {α : Type} (step : Parse α) : Prop :=
  Leads Unfinished step Unfinished

/-! ## The next token -/

theorem next_of_unfinished {parser next : Parser} {value : Option Token}
    (h : parser.Unfinished) (hrun : next?.run parser = .ok (value, next)) :
    next = parser ∧ parser.UnfinishedBeyond ∧ ∃ token, value = some token := by
  obtain ⟨fault, hmem⟩ := h
  unfold next? at hrun
  rw [StateT.run_bind] at hrun
  obtain ⟨⟨found, reached⟩, hget, hrun⟩ := exists_of_bind_eq_ok hrun
  obtain ⟨rfl, rfl⟩ := Prod.mk.inj (Except.ok.inj hget)
  cases htokens : parser.tokens with
  | nil =>
      rw [htokens] at hmem
      cases hmem
  | cons token tokens =>
      dsimp only at hrun
      rw [htokens, List.head?_cons] at hrun
      split at hrun
      · cases hrun
      · next hsound =>
          obtain ⟨rfl, rfl⟩ := Prod.mk.inj (Except.ok.inj hrun)
          refine ⟨rfl, ⟨fault, ?_⟩, token, rfl⟩
          rw [htokens] at hmem ⊢
          refine (List.mem_cons.1 hmem).resolve_left fun hbroken => ?_
          exact hsound fault (congrArg some hbroken.symm)

section

variable {β : Type} {after : Parser → Prop}

/-- Before a fault there is always a token more. -/
theorem Leads.next {rest : Option Token → Parse β}
    (h : ∀ token, Leads UnfinishedBeyond (rest (some token)) after) :
    Leads Unfinished (next? >>= rest) after := by
  intro parser value next hunfinished hrun
  obtain ⟨⟨found, reached⟩, hread, hrun⟩ := exists_of_bind_eq_ok hrun
  obtain ⟨rfl, hbeyond, token, rfl⟩ := next_of_unfinished hunfinished hread
  exact h token _ _ _ hbeyond hrun

theorem leads_skip : Leads UnfinishedBeyond skip Unfinished := by
  intro parser value next hbeyond hrun
  obtain ⟨-, rfl⟩ := Prod.mk.inj (Except.ok.inj hrun)
  exact hbeyond

theorem leads_sees (expected : List Token) :
    Leads Unfinished (sees expected) UnfinishedBeyond :=
  .next fun _ => .done _

theorem onward_unexpected {α : Type} :
    Leads before (unexpected : Parse α) after := .throw _

theorem onward_expect (token : Token) : Onward (expect token) := by
  refine .bind (leads_sees _) fun seen => ?_
  split
  · exact leads_skip
  · exact onward_unexpected

end

/-- The separator before all items but the first. -/
theorem leads_separator {α : Type} {isFirst : Bool} {rest : Unit → Parse α}
    (hrest : ∀ start, Onward (rest start)) :
    Leads UnfinishedBeyond
      (if !isFirst then do
        let start ← expect .flowEntry
        rest start
      else rest ()) Unfinished := by
  split
  · exact .bind (onward_expect _).beyond hrest
  · exact (hrest ()).beyond

/-! ## Steps that read no collection -/

theorem onward_addNode (node : Node) : Onward (addNode node) := by
  intro parser value next hunfinished hrun
  obtain ⟨-, rfl⟩ := Prod.mk.inj (Except.ok.inj hrun)
  exact hunfinished

theorem onward_bindAnchor (anchor : Option String) (id : NodeId) :
    Onward (bindAnchor anchor id) := by
  unfold bindAnchor
  split
  · exact .done _
  · exact .change fun _ hunfinished => hunfinished

theorem onward_setContent (id : NodeId) (content : Content) :
    Onward (setContent id content) :=
  .change fun _ hunfinished => hunfinished

theorem onward_anchor : Onward anchor? := by
  refine .next fun token => ?_
  split
  · exact .bind leads_skip fun _ => .done _
  · exact .pure (fun _ => UnfinishedBeyond.unfinished) _

theorem onward_tag : Onward tag? := by
  refine .next fun token => ?_
  split
  · exact .bind leads_skip fun _ => .done _
  · exact .pure (fun _ => UnfinishedBeyond.unfinished) _

theorem onward_fullTag (tag : Option String × String) :
    Onward (fullTag tag) := by
  unfold fullTag
  split
  · exact .done _
  · refine .bind .get fun parser => ?_
    split
    · exact .done _
    · exact .throw _

theorem onward_properties : Onward properties := by
  refine .bind onward_anchor fun anchor => ?_
  split
  · refine .bind onward_tag fun tag => .bind ?_ fun _ => .done _
    cases tag with
    | none => exact .done _
    | some tag => exact .bind (onward_fullTag tag) fun _ => .done _
  · refine .bind onward_tag fun tag => ?_
    split
    · exact .bind onward_anchor fun _ => .bind (onward_fullTag _)
        fun _ => .done _
    · exact .done _

theorem onward_scalarNode (properties : Properties) (text : String)
    (isPlain : Bool) :
    Onward (scalarNode properties text isPlain) :=
  .bind (onward_addNode _) fun _ => .bind (onward_bindAnchor _ _)
    fun _ => .done _

theorem onward_missingNode : Onward missingNode :=
  onward_scalarNode _ _ _

theorem onward_collectionNode (properties : Properties) (usual : Tag)
    {content : Parse Content} (h : Onward content) :
    Onward (collectionNode properties usual content) :=
  .bind (onward_addNode _) fun _ => .bind (onward_bindAnchor _ _) fun _ =>
    .bind h fun _ => .bind (onward_setContent _ _) fun _ => .done _

theorem onward_sequence (properties : Properties) {items : Parse (List NodeId)}
    (h : Onward items) :
    Onward (collectionNode properties .seq do return .sequence (← items)) :=
  onward_collectionNode _ _ (.bind h fun _ => .done _)

theorem onward_mapping (properties : Properties)
    {fields : Parse (List (NodeId × NodeId))} (h : Onward fields) :
    Onward (collectionNode properties .map do return .mapping (← fields)) :=
  onward_collectionNode _ _ (.bind h fun _ => .done _)

theorem onward_aliasNode (name : String) : Onward (aliasNode name) := by
  refine .bind .get fun parser => ?_
  split
  · exact .done _
  · exact .throw _

theorem onward_emptyNode (properties : Properties) :
    Onward (node.emptyNode properties) := by
  unfold node.emptyNode
  split
  · exact onward_unexpected
  · exact onward_scalarNode _ _ _

/-! ## Nodes -/

/-- With the given fuel, all readers of nodes may be used anywhere, the one of a
pair only behind the mark of its key. -/
structure NodesOnward (fuel : Nat) : Prop where
  node : ∀ isBlock indentless, Onward (node fuel isBlock indentless)
  nodeUnless : ∀ ends isBlock indentless,
    Onward (nodeUnless fuel ends isBlock indentless)
  blockItems : Onward (blockItems fuel)
  indentlessItems : Onward (indentlessItems fuel)
  blockFields : Onward (blockFields fuel)
  flowItems : ∀ isFirst, Onward (flowItems fuel isFirst)
  flowPair : Leads UnfinishedBeyond (flowPair fuel) Unfinished
  flowFields : ∀ isFirst, Onward (flowFields fuel isFirst)

namespace NodesOnward

theorem zero : NodesOnward 0 where
  node _ _ := onward_unexpected
  nodeUnless _ _ _ := onward_unexpected
  blockItems := onward_unexpected
  indentlessItems := onward_unexpected
  blockFields := onward_unexpected
  flowItems _ := onward_unexpected
  flowPair := onward_unexpected
  flowFields _ := onward_unexpected

variable {fuel : Nat} (h : NodesOnward fuel)

include h

theorem node_succ (isBlock indentless : Bool) :
    Onward (Parser.node (fuel + 1) isBlock indentless) := by
  rw [Parser.node]
  refine .next fun token => ?_
  split
  · exact .bind leads_skip fun _ => onward_aliasNode _
  · refine .bind (onward_properties.beyond) fun properties =>
      .next fun token => ?_
    extract_lets content
    have hcontent (start : Unit) :
        Leads UnfinishedBeyond (content start) Unfinished := by
      have hempty := (onward_emptyNode properties).beyond
      dsimp only [content]
      split
      · split
        · exact (onward_sequence _ h.indentlessItems).beyond
        · exact hempty
      · exact .bind leads_skip fun _ => onward_scalarNode _ _ _
      · exact .bind leads_skip fun _ => onward_sequence _ (h.flowItems true)
      · exact .bind leads_skip fun _ => onward_mapping _ (h.flowFields true)
      · split
        · exact .bind leads_skip fun _ => onward_sequence _ h.blockItems
        · exact hempty
      · split
        · exact .bind leads_skip fun _ => onward_mapping _ h.blockFields
        · exact hempty
      · exact hempty
    split
    · exact .bind .get fun parser => .check hcontent
    · exact hcontent ()

theorem nodeUnless_succ (ends : List Token) (isBlock indentless : Bool) :
    Onward (Parser.nodeUnless (fuel + 1) ends isBlock indentless) := by
  rw [Parser.nodeUnless]
  refine .bind (leads_sees ends) fun seen => ?_
  split
  · exact onward_missingNode.beyond
  · exact (h.node _ _).beyond

theorem blockItems_succ : Onward (Parser.blockItems (fuel + 1)) := by
  rw [Parser.blockItems]
  refine .bind (leads_sees _) fun seen => ?_
  split
  · exact .bind leads_skip fun _ => .bind (h.nodeUnless _ _ _) fun _ =>
      .bind h.blockItems fun _ => .done _
  · exact .bind (onward_expect _).beyond fun _ => .done _

theorem indentlessItems_succ : Onward (Parser.indentlessItems (fuel + 1)) := by
  rw [Parser.indentlessItems]
  refine .bind (leads_sees _) fun seen => ?_
  split
  · exact .bind leads_skip fun _ => .bind (h.nodeUnless _ _ _) fun _ =>
      .bind h.indentlessItems fun _ => .done _
  · exact .pure (fun _ => UnfinishedBeyond.unfinished) _

/-- The value of a field, which may be missing, and what comes after it. -/
theorem fieldValue (ends : List Token) (isBlock indentless : Bool) {α : Type}
    {rest : NodeId → Parse α} (hrest : ∀ value, Onward (rest value)) :
    Onward (do
      if ← sees [.value] then
        skip
        let value ← Parser.nodeUnless fuel ends isBlock indentless
        rest value
      else
        let value ← missingNode
        rest value) := by
  refine .bind (leads_sees _) fun seen => ?_
  split
  · exact .bind leads_skip fun _ => .bind (h.nodeUnless _ _ _) hrest
  · exact .bind onward_missingNode.beyond hrest

theorem blockFields_succ : Onward (Parser.blockFields (fuel + 1)) := by
  rw [Parser.blockFields]
  refine .bind (leads_sees _) fun seen => ?_
  split
  · exact .bind leads_skip fun _ => .bind (h.nodeUnless _ _ _) fun key =>
      h.fieldValue _ _ _ fun value => .bind h.blockFields fun _ => .done _
  · exact .bind (onward_expect _).beyond fun _ => .done _

theorem flowItems_succ (isFirst : Bool) :
    Onward (Parser.flowItems (fuel + 1) isFirst) := by
  rw [Parser.flowItems]
  refine .bind (leads_sees _) fun seen => ?_
  split
  · exact .bind leads_skip fun _ => .done _
  · refine leads_separator fun _ => .bind (leads_sees _) fun seen => ?_
    split
    · exact .bind h.flowPair fun _ => .bind (h.flowItems false) fun _ => .done _
    · refine .bind (leads_sees _).beyond fun seen => ?_
      split
      · exact .bind leads_skip fun _ => .done _
      · exact .bind (h.node _ _).beyond fun _ => .bind (h.flowItems false)
          fun _ => .done _

theorem flowPair_succ :
    Leads UnfinishedBeyond (Parser.flowPair (fuel + 1)) Unfinished := by
  rw [Parser.flowPair]
  refine .bind leads_skip fun _ => onward_collectionNode _ _ ?_
  exact .bind (h.nodeUnless _ _ _) fun key => h.fieldValue _ _ _
    fun value => .done _

theorem flowFields_succ (isFirst : Bool) :
    Onward (Parser.flowFields (fuel + 1) isFirst) := by
  rw [Parser.flowFields]
  refine .bind (leads_sees _) fun seen => ?_
  split
  · exact .bind leads_skip fun _ => .done _
  · refine leads_separator fun _ => .bind (leads_sees _) fun seen => ?_
    split
    · exact .bind leads_skip fun _ => .bind (h.nodeUnless _ _ _) fun key =>
        h.fieldValue _ _ _ fun value => .bind (h.flowFields false)
          fun _ => .done _
    · refine .bind (leads_sees _).beyond fun seen => ?_
      split
      · exact .bind leads_skip fun _ => .done _
      · exact .bind (h.node _ _).beyond fun _ =>
          .bind onward_missingNode fun _ =>
          .bind (h.flowFields false) fun _ => .done _

end NodesOnward

theorem nodesOnward (fuel : Nat) : NodesOnward fuel := by
  induction fuel with
  | zero => exact .zero
  | succ fuel ih =>
      exact {
        node := ih.node_succ
        nodeUnless := ih.nodeUnless_succ
        blockItems := ih.blockItems_succ
        indentlessItems := ih.indentlessItems_succ
        blockFields := ih.blockFields_succ
        flowItems := ih.flowItems_succ
        flowPair := ih.flowPair_succ
        flowFields := ih.flowFields_succ }

/-! ## Documents -/

theorem onward_directives (fuel : Nat) (versionGiven : Bool)
    (handles : Assoc String String) :
    Onward (directives fuel versionGiven handles) := by
  induction fuel generalizing versionGiven handles with
  | zero => exact .done _
  | succ fuel ih =>
      rw [directives]
      refine .next fun token => ?_
      split
      · exact .bind leads_skip fun _ => .check fun _ => ih _ _
      · exact .bind leads_skip fun _ => .check fun _ => ih _ _
      · exact .bind leads_skip fun _ => ih _ _
      · exact .pure (fun _ => UnfinishedBeyond.unfinished) _

theorem onward_skipDocumentEnds (fuel : Nat) :
    Onward (skipDocumentEnds fuel) := by
  induction fuel with
  | zero => exact .done _
  | succ fuel ih =>
      refine .bind (leads_sees _) fun seen => ?_
      split
      · exact .bind leads_skip fun _ => ih
      · exact .pure (fun _ => UnfinishedBeyond.unfinished) _

theorem onward_explicitContent (fuel : Nat) :
    Onward (explicitContent fuel) := by
  refine .next fun token => ?_
  split
  · exact onward_missingNode.beyond
  · exact onward_missingNode.beyond
  · exact onward_missingNode.beyond
  · exact onward_missingNode.beyond
  · exact ((nodesOnward fuel).node _ _).beyond

theorem onward_explicit (fuel : Nat) : Onward (document.explicit fuel) :=
  .bind (onward_directives _ _ _) fun _ => .bind (.change fun _ => id) fun _ =>
    .bind (onward_expect _) fun _ => .map (onward_explicitContent fuel)

/-- No document ends before a fault. -/
theorem leads_document : Leads Unfinished document fun _ => False := by
  refine .bind .get fun parser => ?_
  extract_lets fuel content
  -- After the root a document asks once more for a token and finds one, as a
  -- fault is still ahead.
  have hcontent (root : Option NodeId) :
      Leads Unfinished (content root) fun _ => False :=
    .bind (onward_skipDocumentEnds fuel) fun _ => .next fun _ =>
      .bind (onward_directives _ _ _).beyond fun _ => onward_unexpected
  refine .next fun token => ?_
  split
  · exact .bind (.pure (fun _ => UnfinishedBeyond.unfinished) _) hcontent
  · exact .bind (onward_explicit fuel).beyond hcontent
  · exact .bind (onward_explicit fuel).beyond hcontent
  · exact .bind (.map ((nodesOnward fuel).node _ _).beyond) hcontent

end Parser

/-- A text that breaks off, or holds a character that may not occur, has no
value. -/
theorem exists_fault_of_decodeLevels (levels : List Bool) {text : Text.Pieces}
    (h : text.fault ≠ none ∨ ∃ c ∈ text.pieces.flatten, isAllowed c = false) :
    ∃ fault, decodeLevels levels text = .error fault := by
  cases hdecode : decodeLevels levels text with
  | error fault => exact ⟨fault, rfl⟩
  | ok value =>
      exfalso
      obtain ⟨_, hparse, -⟩ := exists_of_bind_eq_ok hdecode
      obtain ⟨⟨root, parser⟩, hdocument, -⟩ := exists_of_bind_eq_ok hparse
      have hunfinished :
          Parser.Unfinished ⟨tokens text, #[], [], Parser.standardHandles⟩ := by
        simpa only [Parser.Unfinished] using exists_broken_mem_tokens h
      exact Parser.leads_document _ root parser hunfinished hdocument

/-- What a text is read as depends on its characters alone, not on its pieces,
if all of them may occur. -/
theorem decodeLevels_congr (levels : List Bool) {text other : Text.Pieces}
    (htext : text.fault = none) (hother : other.fault = none)
    (hflatten : text.pieces.flatten = other.pieces.flatten)
    (h : ∀ c ∈ text.pieces.flatten, isAllowed c = true) :
    decodeLevels levels text = decodeLevels levels other := by
  have hstart : Scanner.start text = Scanner.start other := by
    rw [Scanner.start, Scanner.start, Cursor.start_of_readable htext h,
      Cursor.start_of_readable hother (hflatten ▸ h), hflatten]
  rw [decodeLevels, decodeLevels, parse, parse, tokens, tokens, hstart]

end TraitIndex.Yaml
