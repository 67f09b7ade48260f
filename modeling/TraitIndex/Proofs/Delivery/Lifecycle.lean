import TraitIndex.Proofs.Delivery.ExactlyOnce
import TraitIndex.Proofs.Delivery.Writes

/-!
# Registries and channels are paired once

A registry is initialized when it is attached, and a channel is live when it has
an entry point.  Both happen once: what is refused is exactly what would make
either happen again, and a refusal changes nothing.  So in every run the
initialized registries and the channels that hand over to a registry are paired,
one to one.
-/

namespace TraitIndex

namespace Registry

@[simp] theorem isInitialized_addAll (registry : Registry) (facts : List Fact) :
    (registry.addAll facts).isInitialized = registry.isInitialized := by
  induction facts generalizing registry with
  | nil => rfl
  | cons fact rest ih => exact ih _

@[simp] theorem isInitialized_merge (registry : Registry) (payload : Payload) :
    (registry.merge payload).registry.isInitialized =
      registry.isInitialized := by
  rw [(registry.merge_eq payload).2]
  exact registry.isInitialized_addAll _

end Registry

namespace Channel

theorem isLive_iff {channel : Channel} :
    channel.isLive = true ↔ channel.entryPoint ≠ none := by
  rw [isLive, Option.isSome_iff_ne_none]

theorem install_eq_error_iff (channel : Channel) (entryPoint : EntryPoint) :
    (∃ fault, channel.install entryPoint = .error fault) ↔
      channel.entryPoint ≠ none := by
  rw [← isLive_iff, install]
  cases channel.isLive <;> simp

end Channel

namespace Hub

variable {hub next : Hub} {step : Step} {event : Option Event}

/-! ## Refusals -/

theorem step_attach_eq_error_iff (hub : Hub)
    (registryName channelName : String) :
    (∃ fault, hub.step (.attach registryName channelName) = .error fault) ↔
      (hub.registry registryName).isInitialized = true ∨
        (hub.channel channelName).entryPoint ≠ none := by
  rw [← Channel.isLive_iff]
  cases hcan : hub.canAttach registryName channelName with
  | true =>
      obtain ⟨log, hstep⟩ := step_attach hcan
      simp only [canAttach, Bool.and_eq_true, Bool.not_eq_true'] at hcan
      simp [hstep, hcan.1, hcan.2]
  | false =>
      refine iff_of_true (step_attach_refused hcan) ?_
      simpa [canAttach, imp_iff_not_or] using hcan

theorem step_install_eq_error_iff (hub : Hub) (channelName sinkName : String) :
    (∃ fault, hub.step (.install channelName sinkName) = .error fault) ↔
      (hub.channel channelName).entryPoint ≠ none := by
  rw [← Channel.install_eq_error_iff _ (.sink sinkName)]
  simp only [Hub.step, install]
  cases (hub.channel channelName).install (.sink sinkName) with
  | ok channel => simp [bind, Except.bind, pure, Except.pure]
  | error fault => simp [bind, Except.bind]

/-! ## Pairs -/

/-- An initialized registry is the entry point of one channel, and any other of
none. -/
structure Paired (hub : Hub) : Prop where
  isInitialized_iff (registryName : String) :
      (hub.registry registryName).isInitialized = true ↔
    ∃ channelName, (hub.channel channelName).entryPoint =
      some (.registry registryName)
  channel_unique {registryName channelName other : String} :
    (hub.channel channelName).entryPoint = some (.registry registryName) →
      (hub.channel other).entryPoint = some (.registry registryName) →
        channelName = other

theorem Paired.empty : Paired empty where
  isInitialized_iff _ := iff_of_false Bool.false_ne_true fun ⟨_, h⟩ => nomatch h
  channel_unique h := nomatch h

theorem Paired.setChannel (h : Paired hub) {channelName : String}
    {channel : Channel}
    (hchannel : ∀ registryName,
        channel.entryPoint = some (.registry registryName) ↔
      (hub.channel channelName).entryPoint = some (.registry registryName)) :
    Paired (hub.setChannel channelName channel) := by
  have hentry (other registryName : String) :
      ((hub.setChannel channelName channel).channel other).entryPoint =
          some (.registry registryName) ↔
        (hub.channel other).entryPoint = some (.registry registryName) := by
    rw [channel_setChannel]
    split
    · next heq => rw [hchannel, heq]
    · rfl
  constructor
  · intro registryName
    simp only [registry_setChannel, h.isInitialized_iff, hentry]
  · intro registryName first second hfirst hsecond
    exact h.channel_unique ((hentry _ _).mp hfirst) ((hentry _ _).mp hsecond)

theorem Paired.merged (h : Paired hub) (registryName : String)
    (payload : Payload) :
    Paired (hub.setRegistry registryName
      ((hub.registry registryName).merge payload).registry) where
  isInitialized_iff name := by
    simp only [channel_setRegistry, ← h.isInitialized_iff, registry_setRegistry]
    split
    · next heq => rw [heq, Registry.isInitialized_merge]
    · rfl
  channel_unique := h.channel_unique

theorem Paired.attached (h : Paired hub) {registryName channelName : String}
    (hcan : hub.canAttach registryName channelName = true) :
    Paired ((hub.setChannel channelName
      ⟨some (.registry registryName), []⟩).setRegistry
      registryName (hub.attachedRegistry registryName channelName)) := by
  simp only [canAttach, Bool.and_eq_true, Bool.not_eq_true'] at hcan
  obtain ⟨hinitialized, hlive⟩ := hcan
  have hnone : (hub.channel channelName).entryPoint = none := by
    simpa [Channel.isLive] using hlive
  -- No channel has handed over to the registry so far, and this one has handed
  -- over to none.
  have hfree (other : String) :
      (hub.channel other).entryPoint ≠ some (.registry registryName) := by
    intro hother
    rw [(h.isInitialized_iff registryName).mpr ⟨other, hother⟩] at hinitialized
    cases hinitialized
  have hentry (other name : String) :
      ((hub.setChannel channelName ⟨some (.registry registryName), []⟩).channel
        other).entryPoint =
          some (.registry name) ↔
        (other = channelName ∧ name = registryName) ∨
          (hub.channel other).entryPoint = some (.registry name) := by
    rw [channel_setChannel]
    split
    · next heq => simp [heq, hnone, eq_comm]
    · next hne => simp [hne]
  constructor
  · intro name
    simp only [channel_setRegistry, hentry, registry_setRegistry,
      registry_setChannel]
    split
    · next heq =>
        have hattached :
            (hub.attachedRegistry registryName channelName).isInitialized =
              true := by
          rw [attachedRegistry, Registry.mergeAll_initialized]
          rfl
        exact iff_of_true hattached ⟨channelName, .inl ⟨rfl, heq⟩⟩
    · next hne => simp [hne, h.isInitialized_iff]
  · intro name first second hfirst hsecond
    rw [channel_setRegistry, hentry] at hfirst hsecond
    rcases hfirst with ⟨rfl, rfl⟩ | hfirst
    · exact (hsecond.resolve_right (hfree second)).1.symm
    · rcases hsecond with ⟨-, rfl⟩ | hsecond
      · exact absurd hfirst (hfree first)
      · exact h.channel_unique hfirst hsecond

theorem Effect.paired (h : Effect hub step event next) (hpaired : Paired hub) :
    Paired next := by
  cases h with
  | attached hcan => exact hpaired.attached hcan
  | attachRefused | installRefused => exact hpaired
  | @handed channelName entryPoint payload hentry =>
      cases entryPoint with
      | sink sinkName =>
          exact ⟨hpaired.isInitialized_iff, hpaired.channel_unique⟩
      | registry registryName => exact hpaired.merged registryName payload
  | merged => exact hpaired.merged _ _
  | buffered hentry | installed hentry =>
      exact hpaired.setChannel fun _ => by simp [hentry]
  | taken => exact hpaired.setChannel fun _ => Iff.rfl

theorem run_paired (h : Paired hub) (steps : List Step) :
    Paired (hub.run steps) := by
  induction steps generalizing hub with
  | nil => exact h
  | cons step rest ih => exact ih ((hub.effect step).paired h)

/-! ## Lifecycles -/

/-- A registry that a live channel has refused can still be attached to one that
is free, and then merges everything that waits there. -/
theorem attach_after_refusal {registryName refused free : String}
    (hregistry : (hub.registry registryName).isInitialized = false)
    (hrefused : (hub.channel refused).entryPoint ≠ none)
    (hfree : (hub.channel free).entryPoint = none) :
    let registry := hub.registry registryName
    let waiting := (hub.channel free).pending
    let after := hub.after (.attach registryName refused)
    let attached := after.after (.attach registryName free)
    (after.step (.attach registryName free)).map (·.2.1) =
        .ok (.drained (registry.mergeAll waiting).2.1) ∧
      attached.registry registryName =
        (registry.mergeAll waiting).1.initialized ∧
      attached.channel free = ⟨some (.registry registryName), []⟩ := by
  intro registry waiting after attached
  have hlive : (hub.channel refused).isLive = true :=
    Channel.isLive_iff.mpr hrefused
  have hafter : after = hub :=
    after_attach_refused (by simp [canAttach, hlive])
  have hcan : hub.canAttach registryName free = true := by
    simp [canAttach, Channel.isLive, hregistry, hfree]
  obtain ⟨log, hstep⟩ := step_attach hcan
  have hattached : attached = hub.after (.attach registryName free) :=
    congrArg (·.after (.attach registryName free)) hafter
  refine ⟨?_, ?_, ?_⟩
  · rw [hafter, hstep, ← Registry.mergeAll_reports_initialized]
    rfl
  · rw [hattached, after_attach hcan, registry_setRegistry, if_pos rfl,
      attachedRegistry, Registry.mergeAll_initialized]
  · rw [hattached, after_attach hcan, channel_setRegistry, channel_setChannel,
      if_pos rfl]

/-- What is refused in a run, what a refusal leaves behind, and who is attached
to whom. -/
theorem lifecycle (steps : List Step) :
    let hub := empty.run steps
    (∀ registryName channelName,
      (∃ fault, hub.step (.attach registryName channelName) = .error fault) ↔
        (hub.registry registryName).isInitialized = true ∨
          (hub.channel channelName).entryPoint ≠ none) ∧
      (∀ channelName entryPoint,
        (∃ fault, (hub.channel channelName).install entryPoint = .error fault) ↔
          (hub.channel channelName).entryPoint ≠ none) ∧
      (∀ channelName sinkName,
        (∃ fault, hub.step (.install channelName sinkName) = .error fault) ↔
          (hub.channel channelName).entryPoint ≠ none) ∧
      (∀ step fault, hub.step step = .error fault →
        hub.after step = hub ∧ (perform step).run hub = .error fault hub) ∧
      (∀ step fault next, (perform step).run hub = .error fault next →
        hub.step step = .error fault ∧ next = hub) ∧
      (∀ registryName refused free,
          (hub.registry registryName).isInitialized = false →
        (hub.channel refused).entryPoint ≠ none →
        (hub.channel free).entryPoint = none →
        let waiting := (hub.channel free).pending
        let after := hub.after (.attach registryName refused)
        let attached := after.after (.attach registryName free)
        (after.step (.attach registryName free)).map (·.2.1) =
            .ok (.drained ((hub.registry registryName).mergeAll waiting).2.1) ∧
          attached.registry registryName =
            ((hub.registry registryName).mergeAll waiting).1.initialized ∧
          attached.channel free = ⟨some (.registry registryName), []⟩) ∧
      (∀ channelName entryPoint, (hub.channel channelName).entryPoint =
          some entryPoint →
        ∀ later, ((hub.run later).channel channelName).entryPoint =
          some entryPoint) ∧
      (∀ registryName channelName other,
        (hub.channel channelName).entryPoint = some (.registry registryName) →
          (hub.channel other).entryPoint = some (.registry registryName) →
            channelName = other) ∧
      ∀ registryName, (hub.registry registryName).isInitialized = true ↔
        ∃! channelName, (hub.channel channelName).entryPoint =
          some (.registry registryName) := by
  intro hub
  have hpaired : Paired hub := run_paired Paired.empty steps
  refine ⟨hub.step_attach_eq_error_iff,
    fun channelName => (hub.channel channelName).install_eq_error_iff,
    hub.step_install_eq_error_iff, ?_, fun _ _ _ => run_perform_refused, ?_,
    ?_, ?_, ?_⟩
  · intro step fault hstep
    constructor
    · simp only [after, hstep]
    · rw [run_perform, hstep]
  · intro registryName refused free hregistry hrefused hfree
    exact attach_after_refusal hregistry hrefused hfree
  · intro channelName entryPoint hlive later
    exact (run_live hub later hlive).1
  · intro registryName channelName other
    exact hpaired.channel_unique
  · intro registryName
    rw [hpaired.isInitialized_iff]
    constructor
    · rintro ⟨channelName, hchannel⟩
      exact ⟨channelName, hchannel, fun other hother =>
        hpaired.channel_unique hother hchannel⟩
    · rintro ⟨channelName, hchannel, -⟩
      exact ⟨channelName, hchannel⟩

example :
    (empty.outcomes [.install "taken" "sink", .attach "registry" "taken",
      .attach "registry" "free", .attach "registry" "third"]).map Except.isOk =
        [true, false, true, false] :=
  rfl

end Hub

end TraitIndex
