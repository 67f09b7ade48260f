import TraitIndex.Proofs.Delivery.Steps

/-!
# What happens to payloads

Every step of a hub does at most one thing to the payloads on their way: one
waits in a buffer, one is handed to an entry point, a buffer is drained or
taken, or one is merged directly.  `Effect` lists the steps with what they do;
whatever is not named there a step leaves alone.
-/

namespace TraitIndex

inductive Event where
  | buffered (channel : String) (payload : Payload)
  | handed (channel : String) (entryPoint : EntryPoint) (payload : Payload)
  | drained (channel registry : String) (payloads : List Payload)
  | taken (channel : String) (payloads : List Payload)
  | merged (registry : String) (payload : Payload)

def Step.channel? : Step → Option String
  | .deliver channel _ | .attach _ channel | .install channel _ | .takePending
    channel =>
      some channel
  | .merge _ _ => none

namespace Hub

def event? (hub : Hub) : Step → Option Event
  | .deliver channel payload =>
      match (hub.channel channel).entryPoint with
      | none => some (.buffered channel payload)
      | some entryPoint => some (.handed channel entryPoint payload)
  | .attach registry channel =>
      if hub.canAttach registry channel then
        some (.drained channel registry (hub.channel channel).pending)
      else none
  | .install _ _ => none
  | .takePending channel => some (.taken channel (hub.takePending channel).2)
  | .merge registry payload => some (.merged registry payload)

/-- What happens in a run. -/
def history (hub : Hub) : List Step → List Event
  | [] => []
  | step :: rest => (hub.event? step).toList ++ (hub.after step).history rest

/-! ## Effects -/

/-- The steps, what happens in them and the hub they lead to. -/
inductive Effect (hub : Hub) : Step → Option Event → Hub → Prop
  | buffered {channel : String} {payload : Payload}
      (h : (hub.channel channel).entryPoint = none) :
      Effect hub (.deliver channel payload) (some (.buffered channel payload))
        (hub.setChannel channel
          ⟨none, (hub.channel channel).pending ++ [payload]⟩)
  | handed {channel : String} {entryPoint : EntryPoint} {payload : Payload}
      (h : (hub.channel channel).entryPoint = some entryPoint) :
      Effect hub (.deliver channel payload)
        (some (.handed channel entryPoint payload))
        (hub.hand payload entryPoint).1
  | attached {registry channel : String}
    (h : hub.canAttach registry channel = true) :
      Effect hub (.attach registry channel)
        (some (.drained channel registry (hub.channel channel).pending))
        ((hub.setChannel channel ⟨some (.registry registry), []⟩).setRegistry
          registry
          (hub.attachedRegistry registry channel))
  | attachRefused {registry channel : String}
    (h : hub.canAttach registry channel = false) :
      Effect hub (.attach registry channel) none hub
  | installed {channel sink : String}
    (h : (hub.channel channel).entryPoint = none) :
      Effect hub (.install channel sink) none
        (hub.setChannel channel
          ⟨some (.sink sink), (hub.channel channel).pending⟩)
  | installRefused {channel sink : String}
    (h : (hub.channel channel).isLive = true) :
      Effect hub (.install channel sink) none hub
  | taken {channel : String} :
      Effect hub (.takePending channel)
        (some (.taken channel (hub.channel channel).pending))
        (hub.setChannel channel { hub.channel channel with pending := [] })
  | merged {registry : String} {payload : Payload} :
      Effect hub (.merge registry payload) (some (.merged registry payload))
        (hub.setRegistry registry
          ((hub.registry registry).merge payload).registry)

theorem effect (hub : Hub) (step : Step) :
    Effect hub step (hub.event? step) (hub.after step) := by
  cases step with
  | deliver channel payload =>
      cases h : (hub.channel channel).entryPoint with
      | none =>
          rw [after_deliver_buffering h, Channel.buffer, h, event?, h]
          exact .buffered h
      | some entryPoint =>
          rw [after_deliver_live h, event?, h]
          exact .handed h
  | attach registry channel =>
      cases h : hub.canAttach registry channel with
      | true =>
          rw [after_attach h, event?, if_pos h]
          exact .attached h
      | false =>
          rw [after_attach_refused h, event?, if_neg (by simp [h])]
          exact .attachRefused h
  | install channel sink =>
      cases h : (hub.channel channel).entryPoint with
      | none =>
          rw [after_install h]
          exact .installed h
      | some entryPoint =>
          have hlive : (hub.channel channel).isLive = true := by
            simp [Channel.isLive, h]
          rw [after_install_live hlive]
          exact .installRefused hlive
  | takePending channel => exact .taken
  | merge registry payload => exact .merged

/-! ## What a step leaves alone -/

/-- Where the payloads go that a step hands over. -/
def target? (hub : Hub) : Step → Option EntryPoint
  | .deliver channel _ => (hub.channel channel).entryPoint
  | .attach registry _ | .merge registry _ => some (.registry registry)
  | .install _ _ | .takePending _ => none

variable {hub next : Hub} {step : Step} {event : Option Event}

theorem Effect.channel_eq (h : Effect hub step event next) {name : String}
    (hname : step.channel? ≠ some name) :
    next.channel name = hub.channel name := by
  have hne {other : String} (hother : step.channel? = some other) :
      name ≠ other :=
    fun e => hname (e ▸ hother)
  cases h with
  | buffered | installed | taken | attached => simp [hne rfl]
  | handed => simp
  | attachRefused | installRefused | merged => rfl

theorem Effect.registry_eq (h : Effect hub step event next) {name : String}
    (hname : hub.target? step ≠ some (.registry name)) :
    next.registry name = hub.registry name := by
  have hne {other : String}
      (hother : hub.target? step = some (.registry other)) : name ≠ other :=
    fun e => hname (e ▸ hother)
  cases h with
  | @handed _ entryPoint _ hentry =>
      cases entryPoint with
      | sink => rfl
      | registry => simp [hne hentry]
  | attached | merged => simp [hne rfl]
  | buffered | installed | taken | attachRefused | installRefused => rfl

theorem Effect.sink_eq (h : Effect hub step event next) {name : String}
    (hname : hub.target? step ≠ some (.sink name)) :
    next.sink name = hub.sink name := by
  cases h with
  | @handed _ entryPoint _ hentry =>
      cases entryPoint with
      | registry => rfl
      | sink other =>
          have hne : name ≠ other := fun e => hname (e ▸ hentry)
          simp [hne]
  | buffered | attached | installed | taken | merged
  | attachRefused | installRefused => rfl

end Hub

end TraitIndex
