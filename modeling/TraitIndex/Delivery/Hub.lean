import TraitIndex.Delivery.Attach

/-!
Channels, registries and sinks at work together.

Each is known by a name and is there, empty, from the beginning.  A step either
changes the hub or is refused and leaves it as it was.
-/

namespace TraitIndex

structure Hub where
  channels : Assoc String Channel
  registries : Assoc String Registry
  sinks : Assoc String (List Payload)
  deriving Repr, Inhabited

inductive Step where
  | deliver (channel : String) (payload : Payload)
  | attach (registry channel : String)
  | install (channel sink : String)
  | takePending (channel : String)
  | merge (registry : String) (payload : Payload)
  deriving Repr, Inhabited

inductive Outcome where
  | done
  | merged (report : MergeReport)
  | drained (reports : List MergeReport)
  | taken (payloads : List Payload)
  deriving Repr, Inhabited

namespace Hub

def empty : Hub := ⟨[], [], []⟩

def channel (hub : Hub) (name : String) : Channel :=
  (hub.channels.find? name).getD .empty

def registry (hub : Hub) (name : String) : Registry :=
  (hub.registries.find? name).getD .empty

def sink (hub : Hub) (name : String) : List Payload :=
  (hub.sinks.find? name).getD []

def setChannel (hub : Hub) (name : String) (channel : Channel) : Hub :=
  { hub with channels := hub.channels.insert name channel }

def setRegistry (hub : Hub) (name : String) (registry : Registry) : Hub :=
  { hub with registries := hub.registries.insert name registry }

def setSink (hub : Hub) (name : String) (payloads : List Payload) : Hub :=
  { hub with sinks := hub.sinks.insert name payloads }

section

variable (hub : Hub) (name other : String)

@[simp] theorem channel_setChannel (channel : Channel) :
    (hub.setChannel name channel).channel other =
      if other = name then channel else hub.channel other := by
  simp only [Hub.channel, setChannel, Assoc.find?_insert]
  split <;> rfl

@[simp] theorem channel_setRegistry (registry : Registry) :
    (hub.setRegistry name registry).channel other = hub.channel other := rfl

@[simp] theorem channel_setSink (payloads : List Payload) :
    (hub.setSink name payloads).channel other = hub.channel other := rfl

@[simp] theorem registry_setChannel (channel : Channel) :
    (hub.setChannel name channel).registry other = hub.registry other := rfl

@[simp] theorem registry_setRegistry (registry : Registry) :
    (hub.setRegistry name registry).registry other =
      if other = name then registry else hub.registry other := by
  simp only [Hub.registry, setRegistry, Assoc.find?_insert]
  split <;> rfl

@[simp] theorem registry_setSink (payloads : List Payload) :
    (hub.setSink name payloads).registry other = hub.registry other := rfl

@[simp] theorem sink_setChannel (channel : Channel) :
    (hub.setChannel name channel).sink other = hub.sink other := rfl

@[simp] theorem sink_setRegistry (registry : Registry) :
    (hub.setRegistry name registry).sink other = hub.sink other := rfl

@[simp] theorem sink_setSink (payloads : List Payload) :
    (hub.setSink name payloads).sink other =
      if other = name then payloads else hub.sink other := by
  simp only [sink, setSink, Assoc.find?_insert]
  split <;> rfl

end

def mergeInto (hub : Hub) (name : String) (payload : Payload) :
    Hub × MergeReport × Log :=
  let merged := (hub.registry name).merge payload
  (hub.setRegistry name merged.registry, merged.report, merged.log)

def hand (hub : Hub) (payload : Payload) : EntryPoint → Hub × Log
  | .registry name =>
      let (hub, _, log) := hub.mergeInto name payload
      (hub, log)
  | .sink name => (hub.setSink name (hub.sink name ++ [payload]), [])

def deliver (hub : Hub) (name : String) (payload : Payload) : Hub × Log :=
  let channel := hub.channel name
  match channel.entryPoint with
  | some entryPoint => hub.hand payload entryPoint
  | none =>
      let channel := channel.buffer payload
      (hub.setChannel name channel, [channel.bufferedEntry])

def attach (hub : Hub) (registryName channelName : String) :
    Except LifecycleFault (Hub × List MergeReport × Log) := do
  let attached ← (hub.registry registryName).attach registryName
    (hub.channel channelName)
  let hub := (hub.setChannel channelName attached.channel).setRegistry
    registryName attached.registry
  return (hub, attached.reports, attached.log)

def install (hub : Hub) (channelName sinkName : String) :
    Except LifecycleFault Hub := do
  let channel ← (hub.channel channelName).install (.sink sinkName)
  return hub.setChannel channelName channel

def takePending (hub : Hub) (name : String) : Hub × List Payload :=
  let (pending, channel) := (hub.channel name).takePending
  (hub.setChannel name channel, pending)

def step (hub : Hub) : Step → Except LifecycleFault (Hub × Outcome × Log)
  | .deliver name payload =>
      let (hub, log) := hub.deliver name payload
      .ok (hub, .done, log)
  | .attach registryName channelName => do
      let (hub, reports, log) ← hub.attach registryName channelName
      return (hub, .drained reports, log)
  | .install channelName sinkName => do
      let hub ← hub.install channelName sinkName
      return (hub, .done, [])
  | .takePending name =>
      let (hub, pending) := hub.takePending name
      .ok (hub, .taken pending, [])
  | .merge name payload =>
      let (hub, report, log) := hub.mergeInto name payload
      .ok (hub, .merged report, log)

/-- The hub after a step that may be refused. -/
def after (hub : Hub) (step : Step) : Hub :=
  match hub.step step with
  | .ok (next, _, _) => next
  | .error _ => hub

def run (hub : Hub) (steps : List Step) : Hub :=
  steps.foldl after hub

end Hub

end TraitIndex
