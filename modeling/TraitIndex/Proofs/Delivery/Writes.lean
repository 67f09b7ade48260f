import TraitIndex.Proofs.Delivery.Steps

/-!
# Steps write by write

Attaching a registry changes a channel, then the registry, then the channel
again, and merging into the registry comes last; a refusal can come between two
changes.  Here every change takes effect at once and stays when a later one is
refused.  Taken in this way each step still gives what the hub's step gives, and
leaves no trace where it is refused.
-/

namespace TraitIndex

namespace Hub

/-- Changes of a hub that are made one after the other.  A refusal undoes none
of them. -/
abbrev Change := EStateM LifecycleFault Hub

namespace Change

def install (channelName : String) (entryPoint : EntryPoint) : Change Unit := do
  let channel := (← get).channel channelName
  if channel.isLive then throw .alreadyLive
  modify (·.setChannel channelName
    { channel with entryPoint := some entryPoint })

def takePending (channelName : String) : Change (List Payload) := do
  let channel := (← get).channel channelName
  modify (·.setChannel channelName { channel with pending := [] })
  return channel.pending

def merge (registryName : String) (payload : Payload) : Change MergeReport := do
  let merged := ((← get).registry registryName).merge payload
  modify (·.setRegistry registryName merged.registry)
  return merged.report

def deliver (channelName : String) (payload : Payload) : Change Unit := do
  let channel := (← get).channel channelName
  match channel.entryPoint with
  | some (.registry registryName) => discard (merge registryName payload)
  | some (.sink sinkName) =>
      modify fun hub => hub.setSink sinkName (hub.sink sinkName ++ [payload])
  | none => modify (·.setChannel channelName (channel.buffer payload))

def attach (registryName channelName : String) : Change (List MergeReport) := do
  if ((← get).registry registryName).isInitialized then
    throw .alreadyInitialized
  install channelName (.registry registryName)
  modify fun hub => hub.setRegistry registryName
    (hub.registry registryName).initialized
  let pending ← takePending channelName
  pending.mapM (merge registryName)

end Change

/-- Takes a step, one change after the other. -/
def perform : Step → Change Outcome
  | .deliver channelName payload => do
      Change.deliver channelName payload
      return .done
  | .attach registryName channelName =>
      return .drained (← Change.attach registryName channelName)
  | .install channelName sinkName => do
      Change.install channelName (.sink sinkName)
      return .done
  | .takePending channelName => return .taken (← Change.takePending channelName)
  | .merge registryName payload =>
      return .merged (← Change.merge registryName payload)

/-! ## Single changes -/

variable {hub : Hub}

theorem setRegistry_setRegistry (hub : Hub) (name : String)
    (registry last : Registry) :
    (hub.setRegistry name registry).setRegistry name last =
      hub.setRegistry name last := by
  simp only [setRegistry, Assoc.insert_insert]

theorem setChannel_setChannel (hub : Hub) (name : String)
    (channel last : Channel) :
    (hub.setChannel name channel).setChannel name last =
      hub.setChannel name last := by
  simp only [setChannel, Assoc.insert_insert]

theorem setChannel_setRegistry (hub : Hub) (channelName registryName : String)
    (channel : Channel) (registry : Registry) :
    (hub.setRegistry registryName registry).setChannel channelName channel =
      (hub.setChannel channelName channel).setRegistry registryName registry :=
  rfl

namespace Change

theorem run_install {channelName : String}
    (h : (hub.channel channelName).isLive = false) (entryPoint : EntryPoint) :
    (install channelName entryPoint).run hub =
      .ok () (hub.setChannel channelName
        { hub.channel channelName with entryPoint := some entryPoint }) := by
  simp [install, h]

theorem run_install_live {channelName : String}
    (h : (hub.channel channelName).isLive = true) (entryPoint : EntryPoint) :
    (install channelName entryPoint).run hub = .error .alreadyLive hub := by
  simp [install, h]

theorem run_takePending (hub : Hub) (channelName : String) :
    (takePending channelName).run hub =
      .ok (hub.channel channelName).pending
        (hub.setChannel channelName
          { hub.channel channelName with pending := [] }) := rfl

theorem run_merge (hub : Hub) (registryName : String) (payload : Payload) :
    (merge registryName payload).run hub =
      .ok ((hub.registry registryName).merge payload).report
        (hub.setRegistry registryName
          ((hub.registry registryName).merge payload).registry) := rfl

theorem run_deliver (hub : Hub) (channelName : String) (payload : Payload) :
    (deliver channelName payload).run hub =
      .ok () (hub.deliver channelName payload).1 := by
  unfold deliver Hub.deliver
  simp only [EStateM.run_bind, EStateM.run_get]
  cases (hub.channel channelName).entryPoint with
  | none => rfl
  | some entryPoint =>
      cases entryPoint with
      | registry registryName => rfl
      | sink sinkName => rfl

theorem run_merges (hub : Hub) (registryName : String) (registry : Registry)
    (payloads : List Payload) :
    (payloads.mapM (merge registryName)).run
      (hub.setRegistry registryName registry) =
      .ok (registry.mergeAll payloads).2.1
        (hub.setRegistry registryName (registry.mergeAll payloads).1) := by
  induction payloads generalizing registry with
  | nil => rfl
  | cons payload rest ih =>
      have hmerge :=
        run_merge (hub.setRegistry registryName registry) registryName payload
      simp only [registry_setRegistry, if_true, setRegistry_setRegistry]
        at hmerge
      rw [List.mapM_cons]
      simp only [EStateM.run_bind, hmerge, ih]
      rfl

theorem run_attach_initialized {registryName : String}
    (h : (hub.registry registryName).isInitialized = true)
    (channelName : String) :
    (attach registryName channelName).run hub =
      .error .alreadyInitialized hub := by
  simp [attach, h]

theorem run_attach_live {registryName channelName : String}
    (h : (hub.registry registryName).isInitialized = false)
    (hlive : (hub.channel channelName).isLive = true) :
    (attach registryName channelName).run hub = .error .alreadyLive hub := by
  simp [attach, h, run_install_live hlive]

theorem run_attach {registryName channelName : String}
    (h : hub.canAttach registryName channelName = true) :
    (attach registryName channelName).run hub =
      .ok (hub.drainReports registryName channelName)
        ((hub.setChannel channelName
          ⟨some (.registry registryName), []⟩).setRegistry registryName
          (hub.attachedRegistry registryName channelName)) := by
  have hmark (hub : Hub) : (modify fun hub : Hub =>
      hub.setRegistry registryName
        (hub.registry registryName).initialized : Change PUnit).run hub =
        .ok () (hub.setRegistry registryName
          (hub.registry registryName).initialized) := rfl
  simp only [canAttach, Bool.and_eq_true, Bool.not_eq_true'] at h
  unfold attach
  simp only [EStateM.run_bind, EStateM.run_get, h.1, Bool.false_eq_true,
    if_false, run_install h.2, hmark, run_takePending]
  -- What has been written so far comes down to one change of the channel and
  -- one of the registry.
  simp only [channel_setRegistry, channel_setChannel,
    registry_setChannel, if_true, setChannel_setRegistry, setChannel_setChannel,
    run_merges]
  rfl

end Change

/-! ## Whole steps -/

theorem step_attach_initialized {registryName : String}
    (h : (hub.registry registryName).isInitialized = true)
    (channelName : String) :
    hub.step (.attach registryName channelName) =
      .error .alreadyInitialized := by
  simp only [step, attach, Registry.attach, h]
  rfl

theorem step_attach_live {registryName channelName : String}
    (h : (hub.registry registryName).isInitialized = false)
    (hlive : (hub.channel channelName).isLive = true) :
    hub.step (.attach registryName channelName) = .error .alreadyLive := by
  simp only [step, attach, Registry.attach, Channel.install, h, hlive]
  rfl

/-- Taken write by write, a step gives what it gives in one, and where it is
refused it leaves the hub as it was. -/
theorem run_perform (hub : Hub) (step : Step) :
    (perform step).run hub =
      match hub.step step with
      | .ok (next, outcome, _) => .ok outcome next
      | .error fault => .error fault hub := by
  cases step with
  | deliver channelName payload =>
      simp only [perform, EStateM.run_bind, Change.run_deliver]
      rfl
  | attach registryName channelName =>
      cases hinitialized : (hub.registry registryName).isInitialized with
      | true =>
          rw [step_attach_initialized hinitialized]
          simp only [perform, EStateM.run_bind,
            Change.run_attach_initialized hinitialized]
      | false =>
          cases hlive : (hub.channel channelName).isLive with
          | true =>
              rw [step_attach_live hinitialized hlive]
              simp only [perform, EStateM.run_bind,
                Change.run_attach_live hinitialized hlive]
          | false =>
              have hcan : hub.canAttach registryName channelName = true := by
                simp [canAttach, hinitialized, hlive]
              obtain ⟨log, hstep⟩ := step_attach hcan
              rw [hstep]
              simp only [perform, EStateM.run_bind, Change.run_attach hcan]
              rfl
  | install channelName sinkName =>
      cases hlive : (hub.channel channelName).isLive with
      | true =>
          simp only [perform, EStateM.run_bind, Change.run_install_live hlive,
            Hub.step, Hub.install, Channel.install, hlive]
          rfl
      | false =>
          simp only [perform, EStateM.run_bind, Change.run_install hlive,
            Hub.step, Hub.install, Channel.install, hlive]
          rfl
  | takePending channelName => rfl
  | merge registryName payload => rfl

theorem run_perform_refused {step : Step} {fault : LifecycleFault} {next : Hub}
    (h : (perform step).run hub = .error fault next) :
    hub.step step = .error fault ∧ next = hub := by
  rw [run_perform] at h
  cases hstep : hub.step step with
  | ok result =>
      rw [hstep] at h
      cases h
  | error other =>
      rw [hstep] at h
      cases h
      exact ⟨rfl, rfl⟩

end Hub

end TraitIndex
