/-!
What the index reports while it works.
-/

namespace TraitIndex

inductive LogLevel where
  | debug
  | info
  | warning
  | error
  | critical
  deriving DecidableEq, Repr, Inhabited

namespace LogLevel

def name : LogLevel → String
  | debug => "DEBUG"
  | info => "INFO"
  | warning => "WARNING"
  | error => "ERROR"
  | critical => "CRITICAL"

def all : List LogLevel := [debug, info, warning, error, critical]

def ofName? (name : String) : Option LogLevel :=
  all.find? fun level => level.name == name

def rank : LogLevel → Nat
  | debug => 0
  | info => 1
  | warning => 2
  | error => 3
  | critical => 4

/-- What is reported as long as no configuration says otherwise. -/
def initial : LogLevel := warning

end LogLevel

structure LogEntry where
  level : LogLevel
  message : String
  deriving DecidableEq, Repr, Inhabited

abbrev Log := List LogEntry

def Log.atLeast (log : Log) (level : LogLevel) : Log :=
  log.filter fun entry => level.rank ≤ entry.level.rank

end TraitIndex
