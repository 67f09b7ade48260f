import TraitIndex.Registry.Merge

/-!
Views of the records of one trait.

A view only knows its trait.  Whatever is asked of it is answered from the
registry as it is then, so that a view follows the registry.
-/

namespace TraitIndex

structure View where
  traitName : String
  deriving DecidableEq, Repr, Inhabited

def maxIndex : Int := 9223372036854775807

namespace View

def records (view : View) (registry : Registry) : List Record :=
  registry.records view.traitName

def size (view : View) (registry : Registry) : Nat :=
  (view.records registry).length

def shown (view : View) (registry : Registry) : String :=
  "ImplementorSequence(" ++ Text.quoted view.traitName ++ ", "
    ++ toString (view.size registry)
    ++ " records)"

/-- What the sequence behind a view is called: a known trait has a list, any
other an empty tuple. -/
def sequenceName (view : View) (registry : Registry) : String :=
  match registry.byTrait.find? view.traitName with
  | some _ => "list"
  | none => "tuple"

/-- The element of a list at a place, counted from the end when it is
negative. -/
def elementAt? {α : Type} (items : List α) (index : Int) : Option α :=
  let place := if index < 0 then index + items.length else index
  if place < 0 then none else items[place.toNat]?

def get (view : View) (registry : Registry) (index : Value) :
    Except ValueFault Record :=
  match index.whole? with
  | none => .error (.badIndex (view.sequenceName registry) index.kindName)
  | some place =>
      if maxIndex < place || place < -maxIndex - 1 then .error .hugeIndex
      else
        match elementAt? (view.records registry) place with
        | some record => .ok record
        | none => .error (.outOfRange (view.sequenceName registry))

/-! ## Slices -/

def bound? : Value → Except ValueFault (Option Int)
  | .null => .ok none
  | value =>
      match value.whole? with
      | some place => .ok (some place)
      | none => .error .badSlice

/-- A bound brought into the places of a sequence; going backwards they start
before the first. -/
def clampBound (length step : Int) (place : Int) : Int :=
  let fromStart := if place < 0 then place + length else place
  if step < 0 then max (-1) (min fromStart (length - 1))
  else max 0 (min fromStart length)

def stepCount (start stop step : Int) : Nat :=
  if step < 0 then
    if stop < start then ((start - stop - 1) / -step + 1).toNat else 0
  else if start < stop then ((stop - start - 1) / step + 1).toNat
  else 0

def slicePlaces (length : Nat) (start stop : Option Int) (step : Int) :
    List Int :=
  let first := match start with
    | some place => clampBound length step place
    | none => if step < 0 then (length : Int) - 1 else 0
  let limit := match stop with
    | some place => clampBound length step place
    | none => if step < 0 then -1 else length
  (List.range (stepCount first limit step)).map fun (count : Nat) =>
    first + (count : Int) * step

/-- The records at every `step`-th place from `start` on before `stop`. -/
def slice (view : View) (registry : Registry) (start stop step : Value) :
    Except ValueFault (List Record) := do
  let step := (← bound? step).getD 1
  if step = 0 then throw .zeroStep
  let start ← bound? start
  let stop ← bound? stop
  let records := view.records registry
  return (slicePlaces records.length start stop step).filterMap fun place =>
    records[place.toNat]?

def reversed (view : View) (registry : Registry) : List Record :=
  (view.records registry).reverse

/-! ## Searching -/

def isEqual (element : Element) (record : Record) : Bool :=
  match element with
  | .record r => record.equals r
  | .other _ => false

def contains (view : View) (registry : Registry) (element : Element) : Bool :=
  (view.records registry).any (isEqual element)

def count (view : View) (registry : Registry) (element : Element) : Nat :=
  (view.records registry).countP (isEqual element)

def index (view : View) (registry : Registry) (element : Element) :
    Except ValueFault Nat :=
  match (view.records registry).findIdx? (isEqual element) with
  | some place => .ok place
  | none => .error .noSuchItem

end View

end TraitIndex
