import TraitIndex.Text.Search

/-!
Requests to the service and what they ask for.
-/

namespace TraitIndex.Service

structure Request where
  path : String
  parameters : List (String × String)
  deriving DecidableEq, Repr, Inhabited

/-- The value of a parameter; of several the last one counts. -/
def Request.parameter? (request : Request) (name : String) : Option String :=
  (request.parameters.reverse.find? fun parameter => parameter.1 ==
    name).map (·.2)

inductive Resource where
  | traits
  | stats
  | implementors (traitName : String)
  | crates
  | sidebar (crate kind : String)
  deriving DecidableEq, Repr

inductive Route where
  | about
  | health
  | resource (resource : Resource)
  deriving DecidableEq, Repr

namespace Route

def segment? (text : List Char) : Option String :=
  if text.isEmpty || text.contains '/' then none else some (String.ofList text)

/-- The routes without a variable part.  A line feed at the end of the path does
not count. -/
def fixed? (path : List Char) : Option Route :=
  match String.ofList (Text.dropFinalLineFeed path) with
  | "/" => some .about
  | "/health" => some .health
  | "/api/implementors" => some (.resource .traits)
  | "/api/implementors/stats" => some (.resource .stats)
  | "/api/sidebar" => some (.resource .crates)
  | _ => none

def implementors? (path : List Char) : Option Route := do
  let rest ← Text.stripInitial? "/api/implementors/".toList path
  let traitName ← segment? rest
  return .resource (.implementors traitName)

def sidebar? (path : List Char) : Option Route := do
  let rest ← Text.stripInitial? "/api/sidebar/".toList path
  match Text.splitAt '/' rest with
  | [crate, kind] =>
      let crate ← segment? crate
      let kind ← segment? kind
      return .resource (.sidebar crate kind)
  | _ => none

/-- The route of a path as it stands.  A fixed route goes before one with a
variable part. -/
def literal? (path : List Char) : Option Route :=
  (fixed? path).or ((implementors? path).or (sidebar? path))

def withoutFinalSlashes (path : List Char) : List Char :=
  (path.reverse.dropWhile (· == '/')).reverse

/-- The route of a path; a path with no route may have slashes too many at its
end. -/
def ofPath? (path : String) : Option Route :=
  (literal? path.toList).or (literal? (withoutFinalSlashes path.toList))

end Route

end TraitIndex.Service
