/-!
Taking the arguments of a command apart.

Arguments that start with a dash are options, and all others are operands.  A
long option starts with two dashes and may hold its value behind an equals sign;
an option with a value also has a letter, and the value may follow the letter at
once.  Otherwise the value is the next argument, whatever it looks like.  Behind
a bare double dash everything is an operand.
-/

namespace TraitIndex.Command

inductive OptionForm where
  | flag (name : String)
  | valued (name : String) (letter : Option Char)
  deriving DecidableEq, Repr

namespace OptionForm

def name : OptionForm → String
  | flag name => name
  | valued name _ => name

def letter? : OptionForm → Option Char
  | flag _ => none
  | valued _ letter => letter

end OptionForm

inductive ArgumentKind where
  | operand
  | endOfOptions
  | flag (name : String)
  | valued (name : String) (attached : Option String)
  /-- An option the command does not know, or a value for an option that has
  none. -/
  | misfit
  deriving DecidableEq, Repr

def splitAtEquals (argument : List Char) : String × Option String :=
  let name := String.ofList (argument.takeWhile (· != '='))
  match argument.dropWhile (· != '=') with
  | _ :: value => (name, some (String.ofList value))
  | [] => (name, none)

def kindOfLetter (forms : List OptionForm) (letter : Char) (rest : List Char) :
    ArgumentKind :=
  match forms.find? fun form => form.letter? == some letter with
  | some form =>
      .valued form.name
        (if rest.isEmpty then none else some (String.ofList rest))
  | none => .misfit

def kindOfOption (forms : List OptionForm) (initial : Char) (rest : List Char) :
    ArgumentKind :=
  let (name, attached) := splitAtEquals ('-' :: initial :: rest)
  match forms.find? fun form => form.name == name with
  | some (.flag _) => if attached.isSome then .misfit else .flag name
  | some (.valued _ _) => .valued name attached
  | none => if initial = '-' then .misfit else kindOfLetter forms initial rest

def kindOfArgument (forms : List OptionForm) (argument : String) :
    ArgumentKind :=
  match argument.toList with
  | ['-', '-'] => .endOfOptions
  | '-' :: initial :: rest => kindOfOption forms initial rest
  | _ => .operand

structure Arguments where
  options : List (String × String)
  operands : List String
  deriving DecidableEq, Repr, Inhabited

namespace Arguments

def addOption (name value : String) (arguments : Arguments) : Arguments :=
  { arguments with options := (name, value) :: arguments.options }

def addOperand (operand : String) (arguments : Arguments) : Arguments :=
  { arguments with operands := operand :: arguments.operands }

/-- The value of an option; of several the last one counts. -/
def value? (arguments : Arguments) (name : String) : Option String :=
  (arguments.options.reverse.find? fun option => option.1 == name).map (·.2)

def has (arguments : Arguments) (name : String) : Bool :=
  arguments.options.any fun option => option.1 == name

/-- Takes arguments apart, unless there is a misfit among them or a value is
missing.  Options may stand between operands, or everything from the first
operand on is left alone. -/
def split? (forms : List OptionForm) (mixed : Bool) :
    List String → Option Arguments
  | [] => some ⟨[], []⟩
  | argument :: rest =>
      match kindOfArgument forms argument with
      | .misfit => none
      | .endOfOptions => some ⟨[], rest⟩
      | .operand =>
          if mixed then (split? forms mixed rest).map (addOperand argument)
          else some ⟨[], argument :: rest⟩
      | .flag name => (split? forms mixed rest).map (addOption name "")
      | .valued name (some value) =>
          (split? forms mixed rest).map (addOption name value)
      | .valued name none =>
          match rest with
          | [] => none
          | value :: rest =>
              (split? forms mixed rest).map (addOption name value)

end Arguments

end TraitIndex.Command
