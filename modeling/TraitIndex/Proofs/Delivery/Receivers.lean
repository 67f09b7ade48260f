import TraitIndex.Proofs.Delivery.History

/-!
# What entry points receive

A sink holds what has been handed to it.  A registry has merged what has been
handed to it, what it found in the buffer of its channel and what was merged
directly, in the order in which that happened.
-/

namespace TraitIndex

def Event.receivedBy (entryPoint : EntryPoint) : Event → List Payload
  | .buffered _ _ | .taken _ _ => []
  | .handed _ other payload => if other = entryPoint then [payload] else []
  | .drained _ registry payloads =>
      if .registry registry = entryPoint then payloads else []
  | .merged registry payload =>
      if .registry registry = entryPoint then [payload] else []

def Event.attaches (registry : String) : Event → Bool
  | .drained _ other _ => other = registry
  | _ => false

def received (entryPoint : EntryPoint) (history : List Event) : List Payload :=
  history.flatMap (·.receivedBy entryPoint)

theorem received_append (entryPoint : EntryPoint) (earlier later : List Event) :
    received entryPoint (earlier ++ later) =
      received entryPoint earlier ++ received entryPoint later :=
  List.flatMap_append

/-- The registry after the events that concern it. -/
def Registry.receiving (registry : Registry) (name : String)
    (history : List Event) : Registry :=
  let merged := (registry.mergeAll (received (.registry name) history)).1
  if history.any (·.attaches name) then merged.initialized else merged

theorem Registry.receiving_append (registry : Registry) (name : String)
    (earlier later : List Event) :
    registry.receiving name (earlier ++ later) =
      (registry.receiving name earlier).receiving name later := by
  have hidem (other : Registry) :
      other.initialized.initialized = other.initialized := rfl
  simp only [receiving, received_append, List.any_append,
    (Registry.mergeAll_append _ _ _).1]
  cases earlier.any (·.attaches name) <;> cases later.any (·.attaches name) <;>
    simp [Registry.mergeAll_initialized, hidem]

namespace Hub

variable {hub next : Hub} {step : Step} {event : Option Event}

theorem Effect.sink_received (h : Effect hub step event next) (name : String) :
    next.sink name = hub.sink name ++ received (.sink name) event.toList := by
  cases h with
  | @handed _ entryPoint payload =>
      cases entryPoint with
      | registry other => simp [received, Event.receivedBy]
      | sink other =>
          by_cases hname : other = name
          · subst hname
            simp [received, Event.receivedBy]
          · simp [received, Event.receivedBy, hname, Ne.symm hname]
  | buffered | attached | installed | taken | merged
  | attachRefused | installRefused =>
      simp [received, Event.receivedBy]

/-- Events in which one payload, merged into one registry, is all that
registries receive. -/
theorem registry_merged (hub : Hub) {event : Event} {other name : String}
    {payload : Payload}
    (hreceived : event.receivedBy (.registry name) = if other =
      name then [payload] else [])
    (hattaches : event.attaches name = false) :
    (hub.setRegistry other
      ((hub.registry other).merge payload).registry).registry name =
      (hub.registry name).receiving name [event] := by
  have hall : received (.registry name) [event] = if other = name then [payload]
      else [] :=
    (List.append_nil _).trans hreceived
  by_cases hname : other = name
  · subst hname
    rw [if_pos rfl] at hall
    simp [Registry.receiving, hall, hattaches]
  · rw [if_neg hname] at hall
    simp [Registry.receiving, hall, hattaches, Ne.symm hname]

theorem Effect.registry_received (h : Effect hub step event next)
    (name : String) :
    next.registry name = (hub.registry name).receiving name event.toList := by
  cases h with
  | @handed _ entryPoint payload =>
      cases entryPoint with
      | sink other => rfl
      | registry other =>
          exact registry_merged hub (by simp [Event.receivedBy]) rfl
  | merged => exact registry_merged hub (by simp [Event.receivedBy]) rfl
  | @attached registry =>
      by_cases hname : registry = name
      · subst hname
        simp [Registry.receiving, received, Event.receivedBy, Event.attaches,
          attachedRegistry, Registry.mergeAll_initialized]
      · simp [Registry.receiving, received, Event.receivedBy,
          Event.attaches, hname, Ne.symm hname]
  | buffered | installed | taken | attachRefused | installRefused => rfl

theorem run_sink (hub : Hub) (steps : List Step) (name : String) :
    (hub.run steps).sink name = hub.sink name ++ received (.sink name)
      (hub.history steps) := by
  induction steps generalizing hub with
  | nil => exact (List.append_nil _).symm
  | cons step rest ih =>
      calc (hub.run (step :: rest)).sink name
        _ = (hub.after step).sink name ++
              received (.sink name) ((hub.after step).history rest) :=
                ih (hub.after step)
        _ = hub.sink name ++ received (.sink name)
          (hub.history (step :: rest)) := by
            rw [(hub.effect step).sink_received, List.append_assoc, ←
              received_append]
            rfl

theorem run_registry (hub : Hub) (steps : List Step) (name : String) :
    (hub.run steps).registry name = (hub.registry name).receiving name
      (hub.history steps) := by
  induction steps generalizing hub with
  | nil => rfl
  | cons step rest ih =>
      calc (hub.run (step :: rest)).registry name
        _ = ((hub.after step).registry name).receiving name
          ((hub.after step).history rest) :=
            ih (hub.after step)
        _ = (hub.registry name).receiving name
          (hub.history (step :: rest)) := by
            rw [(hub.effect step).registry_received, ←
              Registry.receiving_append]
            rfl

end Hub

end TraitIndex
