import TraitIndex.Bundle.Read
import TraitIndex.Config
import TraitIndex.Delivery.Attach
import TraitIndex.Registry.Query

/-!
Loading a documentation bundle.

Every fragment file is read and delivered to a channel; a registry is attached
when all files are there, so that everything reaches it through the buffer.  A
file that cannot be read is reported and passed over.
-/

namespace TraitIndex

structure LoadReport where
  delivered : List String
  failed : Assoc String String
  deriving DecidableEq, Repr, Inhabited

def LoadReport.isOk (report : LoadReport) : Bool :=
  report.failed.isEmpty

structure DocsIndex where
  channel : Channel
  registry : Registry
  sidebars : SidebarCatalog
  report : LoadReport
  expected : Option Int
  deriving Repr, Inhabited

/-- Whether a fault concerns one file only, so that loading goes on without
it. -/
def Fault.isSkippable : Fault → Bool
  | format _ => true
  | file .nullByte => false
  | file _ => true
  | _ => false

namespace Bundle

/-- The outcome of reading one file: what it is reported as, and what it
holds. -/
structure Reading (α : Type) where
  name : String
  result : Except Fault α

def fragmentReadings [Host] (tree : FileTree) (root : Path) :
    Except FileFault (List (Reading Fragment)) := do
  let files ← fragmentFiles tree root
  return files.map fun path =>
    let below : Path := ⟨.relative, path.components.drop root.components.length⟩
    ⟨below.toText, readFragment tree path root⟩

def sidebarReadings [Host] (tree : FileTree) (root : Path) :
    Except FileFault (List (Reading SidebarIndex)) := do
  let files ← sidebarFiles tree root
  return files.map fun path => ⟨path.toText, readSidebar tree path⟩

/-- Something built up file by file: what there is so far, what has been
reported, and the fault that put an end to it. -/
structure Progress (α : Type) where
  state : α
  log : Log
  fault : Option Fault
  deriving Repr

/-- Goes through readings: takes up what could be read, passes over what could
not, and stops at a fault that concerns more than its file. -/
def goThrough {α β : Type} (take : α → String → β → α × Log)
    (pass : α → String → Fault → α × Log) :
    α → List (Reading β) → Progress α
  | state, [] => ⟨state, [], none⟩
  | state, reading :: rest =>
      match reading.result with
      | .ok value =>
          let (state, log) := take state reading.name value
          let progress := goThrough take pass state rest
          { progress with log := log ++ progress.log }
      | .error fault =>
          if fault.isSkippable then
            let (state, log) := pass state reading.name fault
            let progress := goThrough take pass state rest
            { progress with log := log ++ progress.log }
          else ⟨state, [], some fault⟩

def goThroughAll {α β : Type} (take : α → String → β → α × Log)
    (pass : α → String → Fault → α × Log) (start : α) :
    Except FileFault (List (Reading β)) → Progress α
  | .ok readings => goThrough take pass start readings
  | .error fault => ⟨start, [], some (.file fault)⟩

structure Delivery where
  channel : Channel
  report : LoadReport
  deriving Repr

namespace Delivery

def start : Delivery := ⟨.empty, ⟨[], []⟩⟩

def take (delivery : Delivery) (name : String) (fragment : Fragment) :
    Delivery × Log :=
  let channel := delivery.channel.buffer (.fragment fragment)
  ({ channel
     report := { delivery.report with
      delivered := delivery.report.delivered ++ [name] } },
    [channel.bufferedEntry])

def pass (delivery : Delivery) (name : String) (fault : Fault) :
    Delivery × Log :=
  ({ delivery with
      report := { delivery.report with
        failed := delivery.report.failed.insert name fault.wording } },
    [⟨.warning, "Skipping fragment file " ++ name ++ ": " ++ fault.wording⟩])

end Delivery

def deliveredEntry (report : LoadReport) (root : Path) : LogEntry :=
  ⟨.info, "Delivered " ++ toString report.delivered.length
    ++ " fragment file(s) from "
    ++ root.toText ++ " (" ++ toString report.failed.length ++ " failed)"⟩

def deliverAll [Host] (tree : FileTree) (root : Path) : Progress Delivery :=
  let progress :=
    goThroughAll Delivery.take Delivery.pass .start (fragmentReadings tree root)
  match progress.fault with
  | some _ => progress
  | none =>
      { progress with
        log := progress.log ++ [deliveredEntry progress.state.report root] }

def loadSidebars [Host] (tree : FileTree) (root : Path) :
    Progress SidebarCatalog :=
  goThroughAll (fun catalog _ index => (catalog.add index, []))
    (fun catalog name fault =>
      (catalog, [⟨.warning, "Skipping sidebar file " ++ name ++ ": " ++
        fault.wording⟩]))
    .empty (sidebarReadings tree root)

def registryName : String := "docs"

/-- Loads a bundle: the index or the fault that kept it from being built, and
what was reported on the way. -/
def load [Host] (tree : FileTree) (root : Path) (expected : Option Int) :
    Except Fault DocsIndex × Log :=
  let delivery := deliverAll tree root
  match delivery.fault with
  | some fault => (.error fault, delivery.log)
  | none =>
      match Registry.empty.attach registryName delivery.state.channel with
      | .error fault => (.error (.lifecycle fault), delivery.log)
      | .ok attached =>
          let sidebars := loadSidebars tree root
          let log := delivery.log ++ attached.log ++ sidebars.log
          match sidebars.fault with
          | some fault => (.error fault, log)
          | none =>
              (.ok ⟨attached.channel, attached.registry, sidebars.state,
                delivery.state.report, expected⟩, log)

end Bundle

def Config.loadBundle [Host] (config : Config) (tree : FileTree) :
    Except Fault DocsIndex × Log :=
  let (index, log) := Bundle.load tree config.docsRoot config.expected
  (index, log.atLeast config.logLevel)

end TraitIndex
