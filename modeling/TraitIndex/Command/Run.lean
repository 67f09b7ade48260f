import TraitIndex.Command.Convert
import TraitIndex.Command.Invocation
import TraitIndex.Command.Show

/-!
Running the program on a tree of files.

A question is answered when the bundle could be loaded.  A configuration that is
refused ends the program with status 2, as do arguments that make no sense, and
any other failure ends it with status 1.  So does whatever the console cannot
show.
-/

namespace TraitIndex

open Console

structure Exit where
  status : Nat
  displays : List Display
  output : String
  log : Log
  files : FileTree
  /-- The fault that ended the program, if it was not foreseen. -/
  fault : Option Fault
  deriving Repr, Inhabited

namespace Exit

def shown [Host] (files : FileTree) (status : Nat) (displays : List Display)
    (log : Log) : Exit :=
  match Host.show? displays with
  | (shown, none) => ⟨status, shown, "", log, files, none⟩
  | (shown, some fault) => ⟨1, shown, "", log, files, some fault⟩

def failed (files : FileTree) (fault : Fault) (log : Log) : Exit :=
  ⟨1, [], "", log, files, some fault⟩

def printed (files : FileTree) (text : String) : Exit :=
  if Text.isEncodable text then ⟨0, [], text, [], files, none⟩
  else failed files .notEncodable []

end Exit

namespace Command

def configured (config : Config) (choice : BundleChoice) : Config :=
  match Question.given choice.docs with
  | some docs => { config with docsRoot := .ofText docs }
  | none => config

def refusal (fault : ConfigFault) : Display :=
  .line ("[red]Configuration error:[/] " ++ fault.wording)

def answerQuestion [Host] (tree : FileTree) (environment : Environment)
    (question : Question) (choice : BundleChoice) : Exit :=
  let (config, configLog) :=
    Config.load tree environment (choice.configFile.getD "")
  let configLog := configLog.atLeast .initial
  match config with
  | .error (.config fault) => .shown tree 2 [refusal fault] configLog
  | .error fault => .failed tree fault configLog
  | .ok config =>
      let (index, log) := (configured config choice).loadBundle tree
      match index with
      | .error fault => .failed tree fault (configLog ++ log)
      | .ok index =>
          match (index.answer question).displays with
          | .error fault => .failed tree (.value fault) (configLog ++ log)
          | .ok displays => .shown tree 0 displays (configLog ++ log)

/-- Writes a script to a file.  The file is emptied before a script is refused
that cannot be encoded. -/
def writeScript [Host] (tree : FileTree) (script output : String) : Exit :=
  let content :=
    if Text.isEncodable script then Text.encodeUtf8 script.toList else []
  match tree.write (.ofText output) content with
  | .error fault => .failed tree (.file fault) []
  | .ok tree =>
      if Text.isEncodable script then
        .shown tree 0 [.line
          ("[green]Legacy fragment written to:[/] " ++ output)] []
      else .failed tree .notEncodable []

def convertFile [Host] (tree : FileTree) (path traitName : String)
    (output : Option String) : Exit :=
  match convertedFile tree (.ofText path) traitName, Question.given output with
  | .error (.unreadable reason), _ =>
      .shown tree 1 [.line ("  [red]Failed to parse:[/] " ++ reason.wording)] []
  | .error (.unforeseen fault), _ => .failed tree fault []
  | .ok script, none => .printed tree script
  | .ok script, some output => writeScript tree script output

def exit [Host] (tree : FileTree) (environment : Environment) : Command → Exit
  | ask question choice => answerQuestion tree environment question choice
  | convert path traitName output => convertFile tree path traitName output

end Command

def Command.versionLine : String := "main, version 0.1.0\n"

def Exit.ofArguments [Host] (tree : FileTree) (environment : Environment)
    (arguments : List String) : Exit :=
  match Invocation.ofArguments arguments with
  | .run command => command.exit tree environment
  | .help => .shown tree 0 [] []
  | .version => .printed tree Command.versionLine
  | .misuse => .shown tree 2 [] []

end TraitIndex
