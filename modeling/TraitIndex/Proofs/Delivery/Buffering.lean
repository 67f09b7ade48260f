import TraitIndex.Proofs.Delivery.Steps

/-!
# Buffered and live delivery

A registry that is attached to a channel late ends up as if it had been there
from the beginning: what has waited is merged in the order of its arrival, and
what comes later is merged behind it.
-/

namespace TraitIndex.Hub

/-- Payloads are delivered to a channel, and a registry is attached to it after
the first `split` of them. -/
def deliveries (registryName channelName : String) (payloads : List Payload)
    (split : Nat) :
    List Step :=
  (payloads.take split).map (.deliver channelName) ++
    .attach registryName channelName :: (payloads.drop split).map
      (.deliver channelName)

/-! ## Deliveries -/

theorem run_deliver_buffering (hub : Hub) {name : String}
    (h : (hub.channel name).entryPoint = none) (payloads : List Payload) :
    (hub.run (payloads.map (.deliver name))).channel name =
        ⟨none, (hub.channel name).pending ++ payloads⟩ ∧
      ∀ registryName,
        (hub.run (payloads.map (.deliver name))).registry registryName =
        hub.registry registryName := by
  induction payloads generalizing hub with
  | nil =>
      refine ⟨?_, fun _ => rfl⟩
      rw [List.append_nil, ← h]
      rfl
  | cons payload rest ih =>
      have hnext : (hub.after (.deliver name payload)).channel name =
          ⟨none, (hub.channel name).pending ++ [payload]⟩ := by
        simp [after_deliver_buffering h, Channel.buffer, h]
      obtain ⟨hchannel, hregistry⟩ :=
        ih (hub.after (.deliver name payload)) (by simp [hnext])
      constructor
      · rw [hnext, List.append_assoc, List.singleton_append] at hchannel
        exact hchannel
      · intro registryName
        have hframe : (hub.after (.deliver name payload)).registry
            registryName =
            hub.registry registryName := by simp [after_deliver_buffering h]
        exact (hregistry registryName).trans hframe

theorem run_deliver_live (hub : Hub) {name registryName : String}
    (h : (hub.channel name).entryPoint = some (.registry registryName))
    (payloads : List Payload) :
    (hub.run (payloads.map (.deliver name))).channel name = hub.channel name ∧
      (hub.run (payloads.map (.deliver name))).registry registryName =
        ((hub.registry registryName).mergeAll payloads).1 := by
  induction payloads generalizing hub with
  | nil => exact ⟨rfl, rfl⟩
  | cons payload rest ih =>
      have hnext := after_deliver_live h payload
      have hchannel : (hub.after (.deliver name payload)).channel name =
          hub.channel name := by
        simp [hnext]
      have hregistry :
          (hub.after (.deliver name payload)).registry registryName =
          ((hub.registry registryName).merge payload).registry := by
            simp [hnext]
      obtain ⟨hrest, hmerged⟩ :=
        ih (hub.after (.deliver name payload)) (hchannel ▸ h)
      rw [hregistry] at hmerged
      exact ⟨hrest.trans hchannel, hmerged⟩

theorem outcomes_deliver (hub : Hub) (name : String) (payloads : List Payload) :
    hub.outcomes (payloads.map (.deliver name)) = payloads.map fun _ =>
      .ok .done := by
  induction payloads generalizing hub with
  | nil => rfl
  | cons payload rest ih => exact congrArg (.ok .done :: ·) (ih _)

/-! ## Merges -/

theorem run_merge (hub : Hub) (name : String) (payloads : List Payload) :
    (hub.run (payloads.map (.merge name))).registry name =
      ((hub.registry name).mergeAll payloads).1 := by
  induction payloads generalizing hub with
  | nil => rfl
  | cons payload rest ih =>
      have hregistry : (hub.after (.merge name payload)).registry name =
          ((hub.registry name).merge payload).registry := by simp [after_merge]
      have hmerged := ih (hub.after (.merge name payload))
      rw [hregistry] at hmerged
      exact hmerged

theorem outcomes_merge (hub : Hub) (name : String) (payloads : List Payload) :
    hub.outcomes (payloads.map (.merge name)) =
      ((hub.registry name).mergeAll payloads).2.1.map fun report =>
        .ok (.merged report) := by
  induction payloads generalizing hub with
  | nil => rfl
  | cons payload rest ih =>
      have hregistry : (hub.after (.merge name payload)).registry name =
          ((hub.registry name).merge payload).registry := by simp [after_merge]
      have hreports := ih (hub.after (.merge name payload))
      rw [hregistry] at hreports
      rw [List.map_cons, outcomes, hreports]
      rfl

/-! ## Attaching in between -/

section

variable (registryName channelName : String) (payloads : List Payload)
  (split : Nat)

theorem run_waiting :
    let hub := empty.run ((payloads.take split).map (.deliver channelName))
    hub.channel channelName = ⟨none, payloads.take split⟩ ∧
        hub.registry registryName = .empty ∧
      hub.canAttach registryName channelName = true := by
  intro hub
  obtain ⟨hchannel, hregistry⟩ :=
    run_deliver_buffering empty
      (show (empty.channel channelName).entryPoint = none from rfl)
      (payloads.take split)
  have hwaiting : hub.registry registryName = .empty := hregistry registryName
  refine ⟨hchannel, hwaiting, ?_⟩
  rw [canAttach, hwaiting, hchannel]
  rfl

theorem run_attached :
    let waiting := empty.run ((payloads.take split).map (.deliver channelName))
    let hub := waiting.after (.attach registryName channelName)
    hub.channel channelName = ⟨some (.registry registryName), []⟩ ∧
      hub.registry registryName =
        (Registry.empty.mergeAll (payloads.take split)).1.initialized := by
  intro waiting hub
  obtain ⟨hchannel, hregistry, hcan⟩ :=
    run_waiting registryName channelName payloads split
  have hmerged : waiting.attachedRegistry registryName channelName =
      (Registry.empty.mergeAll (payloads.take split)).1.initialized := by
    rw [attachedRegistry, hchannel, hregistry, Registry.mergeAll_initialized]
  have hhub : hub = _ := after_attach hcan
  constructor <;> simp [hhub, hmerged]

theorem run_deliveries :
    let hub := empty.run (deliveries registryName channelName payloads split)
    hub.registry registryName =
        (Registry.empty.mergeAll payloads).1.initialized ∧
      hub.channel channelName = ⟨some (.registry registryName), []⟩ := by
  intro hub
  obtain ⟨hchannel, hregistry⟩ :=
    run_attached registryName channelName payloads split
  have hhub : hub = _ := run_append empty _ _
  obtain ⟨hlater, hmerged⟩ := run_deliver_live _
    (congrArg (·.entryPoint) hchannel) (payloads.drop split)
  constructor
  · calc hub.registry registryName
      _ = ((Registry.empty.mergeAll
        (payloads.take split)).1.initialized.mergeAll
            (payloads.drop split)).1 := by
              rw [hhub, ← hregistry, ← hmerged]; rfl
      _ = (Registry.empty.mergeAll payloads).1.initialized := by
          rw [Registry.mergeAll_initialized, ←
            (Registry.mergeAll_append _ _ _).1, List.take_append_drop]
  · rw [hhub, ← hchannel, ← hlater]
    rfl

end

/-- A late registry stands where merging everything directly takes it, apart
from being attached, and reports the same on what has waited. -/
theorem deliveries_eq_merges (registryName channelName : String)
    (payloads : List Payload) (split : Nat) :
    let merges := payloads.map (.merge registryName)
    let steps := deliveries registryName channelName payloads split
    (empty.run steps).registry registryName =
        ((empty.run merges).registry registryName).initialized ∧
      (∃ reports : List MergeReport,
        empty.outcomes merges =
          reports.map (fun report => .ok (.merged report)) ∧
        empty.outcomes steps =
          (payloads.take split).map (fun _ => .ok .done) ++
            .ok (.drained (reports.take split)) ::
              (payloads.drop split).map (fun _ => .ok .done)) ∧
      (empty.run steps).channel channelName =
        ⟨some (.registry registryName), []⟩ := by
  intro merges steps
  obtain ⟨hregistry, hchannel⟩ :=
    run_deliveries registryName channelName payloads split
  refine ⟨hregistry.trans
    (congrArg _ (run_merge empty registryName payloads).symm), ?_, hchannel⟩
  refine ⟨(Registry.empty.mergeAll payloads).2.1,
    outcomes_merge empty registryName payloads, ?_⟩
  obtain ⟨hwaiting, hempty, hcan⟩ :=
    run_waiting registryName channelName payloads split
  obtain ⟨log, hstep⟩ := step_attach hcan
  simp only [steps, deliveries, outcomes_append, outcomes_deliver,
    outcomes, hstep]
  rw [drainReports, hwaiting, hempty, Registry.mergeAll_reports_initialized,
    Registry.take_mergeAll_reports]
  rfl

end TraitIndex.Hub
