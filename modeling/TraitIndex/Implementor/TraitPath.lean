import TraitIndex.Files.Path

/-!
The trait a fragment file is about.

Below a directory `implementors` the directories are the modules of the trait
and the file is named after the trait.
-/

namespace TraitIndex

def implementorsDirectory : String := "implementors"

/-- The components after the last one of the given name, none if there is no
such component. -/
def componentsAfterLast (component : String) : List String → List String
  | [] => []
  | part :: rest =>
      if rest.contains component then componentsAfterLast component rest
      else if part = component then rest
      else []

def traitFileName (path : Path) : String :=
  match Text.stripInitial? "trait.".toList path.stem.toList with
  | some name => String.ofList name
  | none => path.stem

def traitOfPath (path : Path) : String :=
  let modules := componentsAfterLast implementorsDirectory path.parts.dropLast
  "::".intercalate (modules ++ [traitFileName path])

end TraitIndex
