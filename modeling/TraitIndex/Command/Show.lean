import TraitIndex.Command.Question
import TraitIndex.Console

/-!
How answers are shown.
-/

namespace TraitIndex

open Console

namespace Answer

def cut (width : Nat) (text : String) : String :=
  String.ofList (text.toList.take width)

def implementorColumns : List String := ["Crate", "Type", "Impl", "Synthetic"]

def implementorRow (record : Record) : List String := [
  literal record.owningCrate.toText,
  literal record.implementingType.toText,
  literal (cut 80 record.constraintText.toText),
  if record.synthetic.isTruthy then "[dim]Y[/]" else ""]

def implementorTable (traitName : String) (records : List Record) : Display :=
  .table (traitName ++ " (" ++ toString records.length ++ " implementors)")
    implementorColumns
    (records.map implementorRow)

def traitColumns : List String := ["Trait", "Implementors", "Crates"]

def traitRow (summary : TraitSummary) : List String := [
  literal summary.name, toString summary.implementorCount,
    toString summary.crates.length]

def traitTable (summaries : List TraitSummary) : Display :=
  .table ("Traits (" ++ toString summaries.length ++ ")") traitColumns
    (summaries.map traitRow)

def itemLine (item : SidebarItem) : Display :=
  let description :=
    if item.description = "" then ""
    else " [dim]— " ++ literal (cut 70 item.description) ++ "[/]"
  .line ("  [cyan]" ++ literal item.symbolName ++ "[/]" ++ description)

def sectionLines (kind : String) (items : List SidebarItem) : List Display :=
  .line ("\n[bold]" ++ kind ++ "[/] (" ++ toString items.length ++ ")") ::
    items.map itemLine

def statsText (counters : RegistryStats) (readiness : Readiness)
    (sidebarCount : Nat) :
    Except ValueFault String := do
  let summary ← readiness.summary
  return "\n".intercalate [
    "Fragments merged:   " ++ toString counters.fragmentsMerged ++ " ("
      ++ toString counters.distinctSources ++ " distinct)",
    "Records:            " ++ toString counters.records,
    "Duplicates skipped: " ++ toString counters.duplicates,
    "Records dropped:    " ++ toString counters.dropped,
    "Sidebar crates:     " ++ toString sidebarCount,
    "",
    summary]

def failureLines (failed : Assoc String String) : List Display :=
  if failed.isEmpty then []
  else
    .line "\n[red]Unreadable fragment files:[/]" ::
      failed.map fun file => .line ("  [red]x[/] " ++ file.1 ++ ": " ++ file.2)

def displays : Answer → Except ValueFault (List Display)
  | ambiguous name meanings =>
      .ok [.line ("[yellow]'" ++ name ++ "' is ambiguous:[/] " ++
        ", ".intercalate meanings)]
  | implementors traitName [] =>
      .ok [.line ("[yellow]No implementors recorded for " ++
        traitName ++ ".[/]")]
  | implementors traitName records => .ok [implementorTable traitName records]
  | traits [] => .ok [.line "[yellow]No implementor fragments found.[/]"]
  | traits summaries => .ok [traitTable summaries]
  | noSidebar crate =>
      .ok [.line ("[yellow]No sidebar index for crate '" ++ crate ++ "'.[/]")]
  | sidebar sections =>
      .ok (sections.flatMap fun part => sectionLines part.1 part.2)
  | stats counters readiness sidebarCount failed => do
      let text ← statsText counters readiness sidebarCount
      return .panel "Index Stats" text :: failureLines failed

end Answer

end TraitIndex
