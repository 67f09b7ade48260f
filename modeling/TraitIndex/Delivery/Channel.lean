import TraitIndex.Fault
import TraitIndex.Implementor.Fragment
import TraitIndex.Log

/-!
Delivery channels.

A channel has one place for an entry point and a buffer.  As long as nothing is
installed, payloads wait in the buffer; afterwards each goes to the entry point
at once.  The channel does not look at its payloads.
-/

namespace TraitIndex

/-- Where a live channel hands its payloads to: a registry or a sink, by
name. -/
inductive EntryPoint where
  | registry (name : String)
  | sink (name : String)
  deriving DecidableEq, Repr, Inhabited

structure Channel where
  entryPoint : Option EntryPoint
  pending : List Payload
  deriving Repr, Inhabited

namespace Channel

def empty : Channel := ⟨none, []⟩

def isLive (channel : Channel) : Bool :=
  channel.entryPoint.isSome

def buffer (channel : Channel) (payload : Payload) : Channel :=
  { channel with pending := channel.pending ++ [payload] }

def bufferedEntry (channel : Channel) : LogEntry :=
  ⟨.debug, "Buffered fragment (" ++ toString channel.pending.length ++
    " pending)"⟩

/-- The channel with an entry point; it can have only one, ever. -/
def install (channel : Channel) (entryPoint : EntryPoint) :
    Except LifecycleFault Channel :=
  if channel.isLive then .error .alreadyLive
  else .ok { channel with entryPoint := some entryPoint }

def takePending (channel : Channel) : List Payload × Channel :=
  (channel.pending, { channel with pending := [] })

end Channel

end TraitIndex
