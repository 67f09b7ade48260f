import TraitIndex.Command.Arguments
import TraitIndex.Command.Question
import TraitIndex.Number.Literal

/-!
Which command some arguments ask for.
-/

namespace TraitIndex

structure BundleChoice where
  docs : Option String
  configFile : Option String
  deriving DecidableEq, Repr, Inhabited

inductive Command where
  | ask (question : Question) (choice : BundleChoice)
  | convert (path traitName : String) (output : Option String)
  deriving DecidableEq, Repr, Inhabited

inductive Invocation where
  | run (command : Command)
  | help
  | version
  | misuse
  deriving DecidableEq, Repr

namespace Command

def helpOption : String := "--help"

def versionOption : String := "--version"

def bundleForms : List OptionForm := [
  .valued "--config" (some 'c'),
  .valued "--docs" (some 'd')]

def bundleChoice (arguments : Arguments) : BundleChoice :=
  ⟨arguments.value? "--docs", arguments.value? "--config"⟩

/-- A way to call a command: the options it knows, and the command that
arguments make, unless an operand is missing, left over or no value of its
type. -/
structure Usage where
  forms : List OptionForm
  command? : Arguments → Option Command

def implementorsUsage : Usage where
  forms := .valued "--crate" none :: bundleForms
  command? arguments :=
    match arguments.operands with
    | [name] =>
        some (.ask (.implementors name (arguments.value? "--crate"))
          (bundleChoice arguments))
    | _ => none

def traitsUsage : Usage where
  forms := bundleForms
  command? arguments :=
    match arguments.operands with
    | [] => some (.ask .traits (bundleChoice arguments))
    | _ => none

def sidebarUsage : Usage where
  forms := bundleForms
  command? arguments :=
    match arguments.operands with
    | [crate] => some (.ask (.sidebar crate none) (bundleChoice arguments))
    | [crate, kind] =>
        some (.ask (.sidebar crate (some kind)) (bundleChoice arguments))
    | _ => none

def statsUsage : Usage where
  forms := .valued "--expected" none :: bundleForms
  command? arguments :=
    match arguments.operands, arguments.value? "--expected" with
    | [], none => some (.ask (.stats none) (bundleChoice arguments))
    | [], some count =>
        (Number.whole 10 count).toOption.map fun count =>
          .ask (.stats (some count)) (bundleChoice arguments)
    | _, _ => none

def convertUsage : Usage where
  forms := [.valued "--trait" none, .valued "--output" (some 'o')]
  command? arguments :=
    match arguments.operands with
    | [path] =>
        some (.convert path ((arguments.value? "--trait").getD "")
          (arguments.value? "--output"))
    | _ => none

def usage? : String → Option Usage
  | "implementors" => some implementorsUsage
  | "traits" => some traitsUsage
  | "sidebar" => some sidebarUsage
  | "stats" => some statsUsage
  | "convert" => some convertUsage
  | _ => none

def Usage.invocation (usage : Usage) (arguments : List String) : Invocation :=
  match Arguments.split? (.flag helpOption :: usage.forms) true arguments with
  | none => .misuse
  | some arguments =>
      if arguments.has helpOption then .help
      else
        match usage.command? arguments with
        | some command => .run command
        | none => .misuse

def splitGeneral? (arguments : List String) : Option Arguments :=
  Arguments.split? [.flag helpOption, .flag versionOption] false arguments

/-- What the options before the name of a command ask for, if there are any; the
first one decides. -/
def generalInvocation? (arguments : Arguments) : Option Invocation :=
  arguments.options.head?.map fun option =>
    if option.1 = versionOption then .version else .help

/-- What arguments ask for whose first one names no command: behind a double
dash, options may still stand where the name should be. -/
def unknownName (arguments : List String) : Invocation :=
  ((splitGeneral? arguments).bind generalInvocation?).getD .misuse

end Command

def Invocation.ofArguments (arguments : List String) : Invocation :=
  match Command.splitGeneral? arguments with
  | none => .misuse
  | some general =>
      match Command.generalInvocation? general, general.operands with
      | some invocation, _ => invocation
      | none, [] => .misuse
      | none, name :: rest =>
          match Command.usage? name with
          | some usage => usage.invocation rest
          | none => Command.unknownName (name :: rest)

end TraitIndex
