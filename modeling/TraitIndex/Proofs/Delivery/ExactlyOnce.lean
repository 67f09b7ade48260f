import TraitIndex.Proofs.Delivery.Receivers

/-!
# Exactly-once delivery

The books of a channel: what has been delivered to it has either waited or been
handed over, and what has waited has been taken or waits still.  The books are
kept along the history of a run, and every step of the hub keeps them.
-/

namespace TraitIndex

@[simp] def Step.deliveredTo (name : String) : Step → List Payload
  | .deliver channel payload => if channel = name then [payload] else []
  | .attach _ _ | .install _ _ | .takePending _ | .merge _ _ => []

namespace Event

@[simp] def bufferedOn (name : String) : Event → List Payload
  | .buffered channel payload => if channel = name then [payload] else []
  | .handed _ _ _ | .drained _ _ _ | .taken _ _ | .merged _ _ => []

@[simp] def handedFrom (name : String) : Event → List Payload
  | .handed channel _ payload => if channel = name then [payload] else []
  | .buffered _ _ | .drained _ _ _ | .taken _ _ | .merged _ _ => []

/-- What leaves the buffer of a channel, by being taken or drained. -/
@[simp] def takenFrom (name : String) : Event → List Payload
  | .taken channel payloads | .drained channel _ payloads =>
      if channel = name then payloads else []
  | .buffered _ _ | .handed _ _ _ | .merged _ _ => []

@[simp] def drains (name : String) : Event → Bool
  | .drained channel _ _ => channel = name
  | .buffered _ _ | .handed _ _ _ | .taken _ _ | .merged _ _ => false

def channel? : Event → Option String
  | .buffered channel _ | .handed channel _ _ | .drained channel _ _ | .taken
    channel _ =>
      some channel
  | .merged _ _ => none

end Event

def bufferedOn (name : String) (history : List Event) : List Payload :=
  history.flatMap (·.bufferedOn name)

def handedFrom (name : String) (history : List Event) : List Payload :=
  history.flatMap (·.handedFrom name)

def takenFrom (name : String) (history : List Event) : List Payload :=
  history.flatMap (·.takenFrom name)

def deliveredTo (name : String) (steps : List Step) : List Payload :=
  steps.flatMap (·.deliveredTo name)

/-- A registry has drained the buffer of a channel once, when everything that
ever waited had been taken or was in the buffer, and before anything was handed
over. -/
def DrainedOnce (name registry : String) (history : List Event) : Prop :=
  ∃ before payloads after,
      history = before ++ .drained name registry payloads :: after ∧
    bufferedOn name before = takenFrom name before ++ payloads ∧
    handedFrom name before = [] ∧ bufferedOn name after = [] ∧
    ∀ event ∈ before ++ after, event.drains name = false

/-- The books of a channel when some steps have been taken. -/
structure Account (name : String) (steps : List Step) (history : List Event)
    (channel : Channel) :
    Prop where
  delivered : deliveredTo name steps =
    bufferedOn name history ++ handedFrom name history
  conserved : bufferedOn name history =
    takenFrom name history ++ channel.pending
  handed : ∀ entryPoint payload, .handed name entryPoint payload ∈ history →
    channel.entryPoint = some entryPoint
  drained : ∀ registry, channel.entryPoint = some (.registry registry) →
    channel.pending = [] ∧ DrainedOnce name registry history
  undrained : (∀ registry, channel.entryPoint ≠ some (.registry registry)) →
    ∀ event ∈ history, event.drains name = false

/-! ## Books and steps -/

section

variable {name registry : String} {steps : List Step} {step : Step}
  {history events : List Event} {event : Event} {channel : Channel}

@[simp] theorem bufferedOn_nil (name : String) : bufferedOn name [] = [] := rfl

@[simp] theorem bufferedOn_singleton (name : String) (event : Event) :
    bufferedOn name [event] = event.bufferedOn name :=
  List.append_nil _

theorem bufferedOn_append (name : String) (earlier later : List Event) :
    bufferedOn name (earlier ++ later) =
      bufferedOn name earlier ++ bufferedOn name later :=
  List.flatMap_append

@[simp] theorem handedFrom_nil (name : String) : handedFrom name [] = [] := rfl

@[simp] theorem handedFrom_singleton (name : String) (event : Event) :
    handedFrom name [event] = event.handedFrom name :=
  List.append_nil _

theorem handedFrom_append (name : String) (earlier later : List Event) :
    handedFrom name (earlier ++ later) =
      handedFrom name earlier ++ handedFrom name later :=
  List.flatMap_append

@[simp] theorem takenFrom_nil (name : String) : takenFrom name [] = [] := rfl

@[simp] theorem takenFrom_singleton (name : String) (event : Event) :
    takenFrom name [event] = event.takenFrom name :=
  List.append_nil _

theorem takenFrom_append (name : String) (earlier later : List Event) :
    takenFrom name (earlier ++ later) =
      takenFrom name earlier ++ takenFrom name later :=
  List.flatMap_append

theorem deliveredTo_concat (name : String) (steps : List Step) (step : Step) :
    deliveredTo name (steps ++ [step]) =
      deliveredTo name steps ++ step.deliveredTo name := by
  simp [deliveredTo]

theorem Account.empty (name : String) : Account name [] [] Channel.empty where
  delivered := rfl
  conserved := rfl
  handed _ _ h := absurd h List.not_mem_nil
  drained _ h := absurd h (by simp [Channel.empty])
  undrained _ _ h := absurd h List.not_mem_nil

theorem DrainedOnce.append (h : DrainedOnce name registry history)
    (hbuffered : bufferedOn name events = [])
    (hdrains : ∀ event ∈ events, event.drains name = false) :
    DrainedOnce name registry (history ++ events) := by
  obtain ⟨before, payloads, after, rfl, hbefore, hhanded, hafter, hothers⟩ := h
  refine ⟨before, payloads, after ++ events, by simp, hbefore, hhanded, ?_, ?_⟩
  · rw [bufferedOn_append, hafter, hbuffered]
    rfl
  · intro event hevent
    rw [← List.append_assoc, List.mem_append] at hevent
    exact hevent.elim (hothers event) (hdrains event)

theorem Account.handedFrom_eq_nil (h : Account name steps history channel)
    (hentry : channel.entryPoint = none) : handedFrom name history = [] := by
  refine List.flatMap_eq_nil_iff.mpr fun event hevent => ?_
  cases event with
  | buffered | drained | taken | merged => rfl
  | handed other entryPoint payload =>
      by_cases hname : other = name
      · subst hname
        have hlive := h.handed entryPoint payload hevent
        rw [hentry] at hlive
        cases hlive
      · exact if_neg hname

/-- Steps that drain nothing.  A payload can only start to wait when there is no
entry point. -/
theorem Account.extend (h : Account name steps history channel) {next : Channel}
    (hdelivered : step.deliveredTo name =
      bufferedOn name events ++ handedFrom name events)
    (hwaiting : bufferedOn name events = [] ∨ channel.entryPoint = none)
    (hpending : channel.pending ++ bufferedOn name events =
      takenFrom name events ++ next.pending)
    (hhanded : ∀ entryPoint payload, .handed name entryPoint payload ∈ events →
      channel.entryPoint = some entryPoint)
    (hdrains : ∀ event ∈ events, event.drains name = false)
    (hentry : next.entryPoint = channel.entryPoint ∨
      channel.entryPoint = none ∧ ∃ sink, next.entryPoint = some (.sink sink)) :
    Account name (steps ++ [step]) (history ++ events) next := by
  have hregistry {registry : String}
      (hnext : next.entryPoint = some (.registry registry)) :
      channel.entryPoint = some (.registry registry) := by
    rcases hentry with hsame | ⟨_, sink, hsink⟩
    · exact hsame ▸ hnext
    · rw [hsink] at hnext
      cases hnext
  constructor
  -- Delivered is what has waited, then what has been handed over: nothing waits
  -- behind a payload that has been handed over.
  · have hcomm : handedFrom name history ++ bufferedOn name events =
        bufferedOn name events ++ handedFrom name history := by
      rcases hwaiting with hnone | hnone
      · rw [hnone, List.append_nil, List.nil_append]
      · rw [h.handedFrom_eq_nil hnone, List.append_nil, List.nil_append]
    calc deliveredTo name (steps ++ [step])
      _ = deliveredTo name steps ++ step.deliveredTo name :=
        deliveredTo_concat name steps step
      _ = bufferedOn name history ++
        (handedFrom name history ++ bufferedOn name events) ++
            handedFrom name events := by
              rw [h.delivered, hdelivered]; simp only [List.append_assoc]
      _ = bufferedOn name (history ++ events) ++ handedFrom name
        (history ++ events) := by
          rw [hcomm, bufferedOn_append, handedFrom_append]
          simp only [List.append_assoc]
  · calc bufferedOn name (history ++ events)
      _ = takenFrom name history ++
        (channel.pending ++ bufferedOn name events) := by
          rw [bufferedOn_append, h.conserved, List.append_assoc]
      _ = takenFrom name (history ++ events) ++ next.pending := by
          rw [hpending, takenFrom_append, List.append_assoc]
  · intro entryPoint payload hmem
    have hlive : channel.entryPoint = some entryPoint :=
      (List.mem_append.mp hmem).elim (h.handed entryPoint payload)
      (hhanded entryPoint payload)
    rcases hentry with hsame | ⟨hnone, _⟩
    · exact hsame.trans hlive
    · rw [hnone] at hlive
      cases hlive
  · intro registry hnext
    obtain ⟨hempty, hdrained⟩ := h.drained registry (hregistry hnext)
    have hbuffered : bufferedOn name events = [] :=
      hwaiting.resolve_right (by simp [hregistry hnext])
    rw [hempty, hbuffered] at hpending
    -- An empty buffer to which nothing is added can only stay empty.
    exact ⟨(List.append_eq_nil_iff.mp hpending.symm).2,
      hdrained.append hbuffered hdrains⟩
  · intro hnot event hevent
    rcases List.mem_append.mp hevent with hevent | hevent
    · refine h.undrained (fun registry hlive => ?_) event hevent
      rcases hentry with hsame | ⟨hnone, _⟩
      · exact hnot registry (hsame.trans hlive)
      · rw [hnone] at hlive
        cases hlive
    · exact hdrains event hevent

/-- Steps that concern other channels. -/
theorem Account.elsewhere (h : Account name steps history channel)
    (hstep : step.channel? ≠ some name)
    (hevents : ∀ event ∈ events, event.channel? ≠ some name) :
    Account name (steps ++ [step]) (history ++ events) channel := by
  have hdelivered : step.deliveredTo name = [] := by
    cases step <;> simp_all [Step.channel?]
  have hnone : ∀ event ∈ events, event.bufferedOn name = [] ∧
      event.handedFrom name = [] ∧
      event.takenFrom name = [] ∧ event.drains name = false := by
    intro event hevent
    have hne := hevents event hevent
    cases event <;> simp_all [Event.channel?]
  have hbuffered : bufferedOn name events = [] :=
    List.flatMap_eq_nil_iff.mpr fun event hevent => (hnone event hevent).1
  have hhanded : handedFrom name events = [] :=
    List.flatMap_eq_nil_iff.mpr fun event hevent => (hnone event hevent).2.1
  have htaken : takenFrom name events = [] :=
    List.flatMap_eq_nil_iff.mpr fun event hevent => (hnone event hevent).2.2.1
  refine h.extend ?_ (.inl hbuffered) ?_ ?_
    (fun event hevent => (hnone event hevent).2.2.2) (.inl rfl)
  · rw [hdelivered, hbuffered, hhanded]
    rfl
  · rw [hbuffered, htaken, List.append_nil, List.nil_append]
  · intro entryPoint payload hmem
    exact absurd rfl (hevents _ hmem)

theorem Account.attached (h : Account name steps history channel)
    (hentry : channel.entryPoint = none) (registry : String) :
    Account name (steps ++ [.attach registry name])
      (history ++ [.drained name registry channel.pending])
        ⟨some (.registry registry), []⟩ := by
  have hhanded : handedFrom name history = [] := h.handedFrom_eq_nil hentry
  have hundrained := h.undrained (by simp [hentry])
  constructor
  · rw [deliveredTo_concat, bufferedOn_append, handedFrom_append, h.delivered]
    simp
  · rw [bufferedOn_append, takenFrom_append, h.conserved]
    simp
  · intro entryPoint payload hmem
    rw [List.mem_append, List.mem_singleton] at hmem
    have hlive := h.handed entryPoint payload (hmem.resolve_right (by simp))
    rw [hentry] at hlive
    cases hlive
  · intro other hother
    cases hother
    -- The drain comes last in the history, so everything else comes before it.
    refine ⟨rfl, history, channel.pending, [], rfl, h.conserved,
      hhanded, rfl, ?_⟩
    rw [List.append_nil]
    exact hundrained
  · intro hnot
    exact absurd rfl (hnot registry)

end

/-! ## Books of a run -/

namespace Hub

variable {hub next : Hub} {step : Step} {event : Option Event} {name : String}
  {steps : List Step} {history : List Event}

theorem Effect.event_channel_ne (h : Effect hub step event next)
    (hne : step.channel? ≠ some name) :
    ∀ occurred ∈ event.toList, occurred.channel? ≠ some name := by
  cases h with
  | buffered | handed | attached | taken =>
      simpa [Event.channel?, Step.channel?] using hne
  | merged => simp [Event.channel?]
  | attachRefused | installed | installRefused => simp

theorem Effect.account (h : Effect hub step event next)
    (hbooks : Account name steps history (hub.channel name)) :
    Account name (steps ++ [step]) (history ++ event.toList)
      (next.channel name) := by
  by_cases hname : step.channel? = some name
  case neg =>
    rw [h.channel_eq hname]
    exact hbooks.elsewhere hname (h.event_channel_ne hname)
  cases h with
  | merged => cases hname
  | buffered hentry =>
      cases hname
      refine hbooks.extend ?_ (.inr hentry) ?_ ?_ ?_ (.inl ?_) <;> simp [hentry]
  | handed hentry =>
      cases hname
      rw [channel_hand]
      refine hbooks.extend ?_ (.inl ?_) ?_ ?_ ?_ (.inl rfl) <;> simp [hentry]
  | @attached registry _ hcan =>
      cases hname
      have hentry : (hub.channel name).entryPoint = none := by
        simpa [canAttach, Channel.isLive] using (Bool.and_eq_true_iff.mp hcan).2
      simpa using hbooks.attached hentry registry
  | attachRefused | installRefused =>
      exact hbooks.extend rfl (.inl rfl) (by simp) (by simp) (by simp)
        (.inl rfl)
  | @installed _ sink hentry =>
      cases hname
      refine hbooks.extend rfl (.inl rfl) ?_ (by simp) (by simp)
        (.inr ⟨hentry, sink, ?_⟩) <;>
        simp
  | taken =>
      cases hname
      refine hbooks.extend ?_ (.inl ?_) ?_ ?_ ?_ (.inl ?_) <;> simp

theorem run_account (hub : Hub) (steps later : List Step) (history : List Event)
    (hbooks : Account name steps history (hub.channel name)) :
    Account name (steps ++ later) (history ++ hub.history later)
      ((hub.run later).channel name) := by
  induction later generalizing hub steps history with
  | nil =>
      rw [List.append_nil, Hub.history, List.append_nil]
      exact hbooks
  | cons step rest ih =>
      have hnext := ih (hub.after step) _ _ ((hub.effect step).account hbooks)
      rw [List.append_assoc, List.append_assoc] at hnext
      exact hnext

/-! ## Live channels -/

theorem Effect.live (h : Effect hub step event next) {entryPoint : EntryPoint}
    (hlive : (hub.channel name).entryPoint = some entryPoint) :
    (next.channel name).entryPoint = some entryPoint ∧
      ((next.channel name).pending = (hub.channel name).pending ∨
        (next.channel name).pending = []) ∧
      handedFrom name event.toList = step.deliveredTo name := by
  by_cases hname : step.channel? = some name
  case neg =>
    have hevents := h.event_channel_ne hname
    rw [h.channel_eq hname]
    refine ⟨hlive, .inl rfl, ?_⟩
    cases h with
    | handed | buffered => simp_all [Step.channel?]
    | attached | attachRefused | installed | installRefused | taken | merged =>
        rfl
  cases h with
  | merged => cases hname
  | buffered hentry =>
      cases hname
      rw [hentry] at hlive
      cases hlive
  | handed hentry =>
      cases hname
      rw [channel_hand]
      exact ⟨hlive, .inl rfl, by simp⟩
  | attached hcan =>
      cases hname
      simp [canAttach, Channel.isLive, hlive] at hcan
  | attachRefused | installRefused => exact ⟨hlive, .inl rfl, rfl⟩
  | installed hentry =>
      cases hname
      rw [hentry] at hlive
      cases hlive
  | taken =>
      cases hname
      exact ⟨by simpa using hlive, .inr (by simp), by simp⟩

theorem run_live (hub : Hub) (steps : List Step) {entryPoint : EntryPoint}
    (hlive : (hub.channel name).entryPoint = some entryPoint) :
    ((hub.run steps).channel name).entryPoint = some entryPoint ∧
      (((hub.run steps).channel name).pending = (hub.channel name).pending ∨
        ((hub.run steps).channel name).pending = []) ∧
      handedFrom name (hub.history steps) = deliveredTo name steps := by
  induction steps generalizing hub with
  | nil => exact ⟨hlive, .inl rfl, rfl⟩
  | cons step rest ih =>
      obtain ⟨hentry, hpending, hhanded⟩ := (hub.effect step).live hlive
      obtain ⟨hlast, hkept, hrest⟩ := ih (hub.after step) hentry
      refine ⟨hlast, ?_, ?_⟩
      · rcases hkept with hkept | hkept
        · exact hpending.imp hkept.trans hkept.trans
        · exact .inr hkept
      · rw [Hub.history, handedFrom_append, hhanded, hrest]
        rfl

/-- In every run each payload delivered to a channel waits, or is handed to the
entry point at once; what has waited has been taken, or drained once, or waits
still; and the entry points have received what they have been handed, nothing
else, in that order. -/
theorem exactly_once (steps : List Step) :
    let hub := empty.run steps
    let history := empty.history steps
    (∀ name, Account name steps history (hub.channel name)) ∧
      (∀ name, (hub.channel name).entryPoint = none →
        deliveredTo name steps =
          takenFrom name history ++ (hub.channel name).pending) ∧
      (∀ name entryPoint, (hub.channel name).entryPoint = some entryPoint →
        (∀ payload, hub.after (.deliver name payload) =
          (hub.hand payload entryPoint).1) ∧
        ∀ later, ((hub.run later).channel name).entryPoint = some entryPoint ∧
          (((hub.run later).channel name).pending = (hub.channel name).pending ∨
            ((hub.run later).channel name).pending = []) ∧
          handedFrom name (hub.history later) = deliveredTo name later) ∧
      (∀ name, hub.sink name = received (.sink name) history) ∧
      (∀ name, hub.registry name = Registry.empty.receiving name history) ∧
      ∀ step,
        (∀ name, step.channel? ≠ some name → (hub.after step).channel name =
          hub.channel name) ∧
        (∀ name, hub.target? step ≠ some (.registry name) →
          (hub.after step).registry name = hub.registry name) ∧
        (∀ name, hub.target? step ≠ some (.sink name) →
          (hub.after step).sink name = hub.sink name) ∧
        ∀ fault, hub.step step = .error fault → hub.after step = hub := by
  intro hub history
  have hbooks (name : String) : Account name steps history (hub.channel name) :=
    run_account empty [] steps [] (Account.empty name)
  refine ⟨hbooks, ?_, ?_, fun name => run_sink empty steps name,
    fun name => run_registry empty steps name, ?_⟩
  · intro name hentry
    rw [(hbooks name).delivered, (hbooks name).handedFrom_eq_nil hentry,
      List.append_nil, (hbooks name).conserved]
  · intro name entryPoint hlive
    exact ⟨after_deliver_live hlive, fun later => run_live hub later hlive⟩
  · intro step
    have heffect := hub.effect step
    refine ⟨fun name => heffect.channel_eq, fun name => heffect.registry_eq,
      fun name => heffect.sink_eq, ?_⟩
    intro fault hfault
    simp only [after, hfault]

example (first second third : Payload) :
    received (.registry "registry") (empty.history [
      .deliver "channel" first, .deliver "channel" second,
        .attach "registry" "channel",
      .takePending "channel", .deliver "channel" third]) =
        [first, second, third] :=
  rfl

end Hub

end TraitIndex
