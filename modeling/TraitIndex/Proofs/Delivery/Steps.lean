import TraitIndex.Delivery.Hub
import TraitIndex.Proofs.Registry.Merging

/-!
# Steps of a hub

The hub after each kind of step, taken or refused, and what the steps of a run
give back.
-/

namespace TraitIndex

namespace Hub

variable {hub : Hub}

/-! ## Single steps -/

theorem after_deliver_buffering {name : String}
    (h : (hub.channel name).entryPoint = none) (payload : Payload) :
    hub.after (.deliver name payload) =
      hub.setChannel name ((hub.channel name).buffer payload) := by
  simp only [after, step, deliver, h]

theorem after_deliver_live {name : String} {entryPoint : EntryPoint}
    (h : (hub.channel name).entryPoint = some entryPoint) (payload : Payload) :
    hub.after (.deliver name payload) = (hub.hand payload entryPoint).1 := by
  simp only [after, step, deliver, h]

@[simp] theorem hand_registry (hub : Hub) (name : String) (payload : Payload) :
    (hub.hand payload (.registry name)).1 =
      hub.setRegistry name ((hub.registry name).merge payload).registry := rfl

@[simp] theorem hand_sink (hub : Hub) (name : String) (payload : Payload) :
    (hub.hand payload (.sink name)).1 =
      hub.setSink name (hub.sink name ++ [payload]) := rfl

@[simp] theorem channel_hand (hub : Hub) (name : String) (payload : Payload)
    (entryPoint : EntryPoint) :
    (hub.hand payload entryPoint).1.channel name = hub.channel name := by
  cases entryPoint <;> rfl

theorem after_merge (hub : Hub) (name : String) (payload : Payload) :
    hub.after (.merge name payload) =
      hub.setRegistry name ((hub.registry name).merge payload).registry := rfl

theorem after_install_live {name : String}
    (h : (hub.channel name).isLive = true) (sinkName : String) :
    hub.after (.install name sinkName) = hub := by
  simp only [after, step, install, Channel.install, h, if_true]
  rfl

theorem after_install {name : String} (h : (hub.channel name).entryPoint = none)
    (sinkName : String) :
    hub.after (.install name sinkName) =
      hub.setChannel name
        ⟨some (.sink sinkName), (hub.channel name).pending⟩ := by
  have hlive : (hub.channel name).isLive = false := by simp [Channel.isLive, h]
  simp only [after, step, install, Channel.install, hlive]
  rfl

def attachedRegistry (hub : Hub) (registryName channelName : String) :
    Registry :=
  ((hub.registry registryName).initialized.mergeAll
    (hub.channel channelName).pending).1

def drainReports (hub : Hub) (registryName channelName : String) :
    List MergeReport :=
  ((hub.registry registryName).initialized.mergeAll
    (hub.channel channelName).pending).2.1

/-- A registry can be attached when it has not been attached and the channel has
no entry point. -/
def canAttach (hub : Hub) (registryName channelName : String) : Bool :=
  !(hub.registry registryName).isInitialized &&
    !(hub.channel channelName).isLive

theorem step_attach {registryName channelName : String}
    (h : hub.canAttach registryName channelName = true) :
    ∃ log, hub.step (.attach registryName channelName) =
      .ok ((hub.setChannel channelName
        ⟨some (.registry registryName), []⟩).setRegistry registryName
          (hub.attachedRegistry registryName channelName),
        .drained (hub.drainReports registryName channelName), log) := by
  simp only [canAttach, Bool.and_eq_true, Bool.not_eq_true'] at h
  simp only [step, attach, Registry.attach, Channel.install, h.1, h.2]
  exact ⟨_, rfl⟩

theorem step_attach_refused {registryName channelName : String}
    (h : hub.canAttach registryName channelName = false) :
    ∃ fault, hub.step (.attach registryName channelName) = .error fault := by
  simp only [step, attach, Registry.attach, Channel.install]
  cases hi : (hub.registry registryName).isInitialized with
  | true => exact ⟨.alreadyInitialized, rfl⟩
  | false =>
      have hlive : (hub.channel channelName).isLive = true := by
        simpa [canAttach, hi] using h
      rw [hlive]
      exact ⟨.alreadyLive, rfl⟩

theorem after_attach {registryName channelName : String}
    (h : hub.canAttach registryName channelName = true) :
    hub.after (.attach registryName channelName) =
      (hub.setChannel channelName
        ⟨some (.registry registryName), []⟩).setRegistry registryName
        (hub.attachedRegistry registryName channelName) := by
  obtain ⟨log, hstep⟩ := step_attach h
  simp only [after, hstep]

theorem after_attach_refused {registryName channelName : String}
    (h : hub.canAttach registryName channelName = false) :
    hub.after (.attach registryName channelName) = hub := by
  obtain ⟨fault, hstep⟩ := step_attach_refused h
  simp only [after, hstep]

/-! ## Runs -/

theorem run_append (hub : Hub) (earlier later : List Step) :
    hub.run (earlier ++ later) = (hub.run earlier).run later :=
  List.foldl_append

/-- What the steps of a run give back, refusals included. -/
def outcomes (hub : Hub) : List Step → List (Except LifecycleFault Outcome)
  | [] => []
  | step :: rest =>
      (hub.step step).map (·.2.1) :: (hub.after step).outcomes rest

theorem outcomes_append (hub : Hub) (earlier later : List Step) :
    hub.outcomes (earlier ++ later) =
      hub.outcomes earlier ++ (hub.run earlier).outcomes later := by
  induction earlier generalizing hub with
  | nil => rfl
  | cons step rest ih =>
      exact congrArg ((hub.step step).map (·.2.1) :: ·) (ih (hub.after step))

end Hub

end TraitIndex
