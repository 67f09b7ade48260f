import TraitIndex.Delivery.Channel
import TraitIndex.Registry.Merge

/-!
Attaching a registry to a channel.

The registry becomes the entry point of the channel and merges everything the
channel has buffered, in the order of its arrival, just as it will merge what
comes later.
-/

namespace TraitIndex

structure Attached where
  registry : Registry
  channel : Channel
  reports : List MergeReport
  log : Log
  deriving Repr, Inhabited

def drainingLog (count : Nat) : Log :=
  if count = 0 then []
  else [⟨.debug, "Draining " ++ toString count ++ " buffered fragment(s)"⟩]

/-- Attaches a registry, known by a name, to a channel.  A registry can be
attached only once, and a channel can have only one entry point. -/
def Registry.attach (registry : Registry) (name : String) (channel : Channel) :
    Except LifecycleFault Attached := do
  if registry.isInitialized then throw .alreadyInitialized
  let channel ← channel.install (.registry name)
  let (pending, channel) := channel.takePending
  let (registry, reports, log) :=
    { registry with isInitialized := true }.mergeAll pending
  return ⟨registry, channel, reports, drainingLog pending.length ++ log⟩

end TraitIndex
