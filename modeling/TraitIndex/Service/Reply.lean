import TraitIndex.Command.Question
import TraitIndex.Service.Parameter
import TraitIndex.Service.Request

/-!
Replies of the service, with their status and their body.
-/

namespace TraitIndex.Service

inductive Reply where
  | about
  | healthy
  | traits (summaries : List TraitSummary)
  | stats (counters : RegistryStats) (readiness : Readiness)
    (failed : Assoc String String)
  | implementors (traitName : String) (records : List Record)
  | crates (names : List String)
  | sidebar (crate kind : String) (items : List SidebarItem)
  | noSidebar (crate : String)
  | noRoute
  | badParameter (fault : ParameterFault)
  deriving Repr, Inhabited

namespace Reply

def status : Reply → Nat
  | noSidebar _ => 404
  | noRoute => 404
  | badParameter _ => 422
  | _ => 200

def object (fields : List (String × Value)) : Value :=
  .mapping (fields.map fun field => (.text field.1, field.2))

def texts (values : List String) : Value :=
  .list (values.map .text)

def amount (number : Nat) : Value :=
  .int number

def summaryObject (summary : TraitSummary) : Value :=
  object [
    ("trait_name", .text summary.name),
    ("implementor_count", amount summary.implementorCount),
    ("crates", texts summary.crates)]

def statsObject (counters : RegistryStats) (readiness : Readiness)
    (failed : Assoc String String) : Value :=
  object [
    ("fragments_merged", amount counters.fragmentsMerged),
    ("fragments_rejected", amount counters.fragmentsRejected),
    ("distinct_sources", amount counters.distinctSources),
    ("records", .int counters.records),
    ("duplicates", .int counters.duplicates),
    ("dropped", .int counters.dropped),
    ("expected_fragments", (readiness.expected.map Value.int).getD .null),
    ("ready", .bool readiness.isReady),
    ("failed_files", object (failed.map fun file => (file.1, .text file.2)))]

def recordObject (record : Record) : Value :=
  object [
    ("trait_name", record.traitName),
    ("implementing_type", record.implementingType),
    ("owning_crate", record.owningCrate),
    ("constraint_text", record.constraintText),
    ("synthetic", record.synthetic)]

def itemObject (item : SidebarItem) : Value :=
  object [("symbol_name", .text item.symbolName),
    ("description", .text item.description)]

def detail (value : Value) : Value :=
  object [("detail", value)]

def body : Reply → Value
  | about =>
      object [
        ("name", .text "docindex API"),
        ("version", .text "0.1.0"),
        ("docs", .text "/docs"),
        ("openapi", .text "/openapi.json")]
  | healthy => object [("status", .text "healthy")]
  | traits summaries => .list (summaries.map summaryObject)
  | stats counters readiness failed => statsObject counters readiness failed
  | implementors traitName records =>
      object [
        ("trait_name", .text traitName),
        ("implementors", .list (records.map recordObject)),
        ("total_count", amount records.length)]
  | crates names => texts names
  | sidebar crate kind items =>
      object [
        ("crate", .text crate),
        ("kind", .text kind),
        ("items", .list (items.map itemObject))]
  | noSidebar crate =>
      detail (.text ("Crate '" ++ crate ++ "' has no sidebar index"))
  | noRoute => detail (.text "Not Found")
  | badParameter fault =>
      detail (.list [object [("type", .text fault.kindName)]])

/-- Whether every number in a body is short enough to be shown.  All but one
have been counted: how many fragments are expected is up to whoever configures
the service or asks it. -/
def isShowable : Reply → Bool
  | stats _ readiness _ =>
      ((readiness.expected.map Value.int).getD .null).isShowable
  | _ => true

end Reply

def statsReply (index : DocsIndex) (request : Request) : Reply :=
  let reply (expected : Option Int) : Reply :=
    .stats index.registry.stats (index.readiness expected) index.report.failed
  match request.parameter? "expected" with
  | none => reply none
  | some text =>
      match count text with
      | .error fault => .badParameter fault
      | .ok expected => reply (some expected)

def sidebarReply (catalog : SidebarCatalog) (crate kind : String) : Reply :=
  match catalog.get? crate with
  | none => .noSidebar crate
  | some _ => .sidebar crate kind (catalog.lookup crate kind)

def replyFrom (index : DocsIndex) (request : Request) : Resource → Reply
  | .traits => .traits index.registry.summaries
  | .stats => statsReply index request
  | .implementors traitName =>
      .implementors traitName
        (index.registry.recordsFor traitName (request.parameter? "crate"))
  | .crates => .crates index.sidebars.crates
  | .sidebar crate kind => sidebarReply index.sidebars crate kind

end TraitIndex.Service
