import ShadowTraffic.Proofs.Routing.Service

/-! # What a step of a service can do

The registry, the calls under way and the closure that is started, for each action. Nothing after
this module opens the definition of a step.
-/

namespace ShadowTraffic

namespace Shared

/-- The registry and its callers; spans may have been opened meanwhile. -/
def Same (a b : Shared) : Prop :=
  a.registry = b.registry ∧ a.ongoing = b.ongoing

end Shared

namespace Service

variable {α ε : Type} {s : Service α ε} {c d : CallerId} {call call' : Call α ε} {t : Transition}

/-! ## Entering and leaving a phase -/

@[simp] theorem shared_leave : (s.leave c call).service.shared = s.shared := rfl

@[simp] theorem calls_leave :
    (s.leave c call).service.calls = Function.update s.calls c none := rfl

@[simp] theorem started_leave : (s.leave c call).started = none := rfl

@[simp] theorem stretch_leave : (s.leave c call).stretch = none := rfl

@[simp] theorem shared_enter : (s.enter c call).service.shared = s.shared := by
  unfold enter
  split <;> simp

@[simp] theorem stretch_enter : (s.enter c call).stretch = none := by
  unfold enter
  split <;> simp

@[simp] theorem dispatcher_leave : (s.leave c call).service.dispatcher = s.dispatcher := rfl

@[simp] theorem dispatcher_enter : (s.enter c call).service.dispatcher = s.dispatcher := by
  unfold enter
  split <;> simp

theorem calls_enter_of_ne (h : d ≠ c) : (s.enter c call).service.calls d = s.calls d := by
  unfold enter
  split <;> simp [h]

theorem calls_enter_self (h : (s.enter c call).service.calls c = some call') : call' = call := by
  unfold enter at h
  split at h
  · simpa using h.symm
  · simpa using h.symm
  · simp at h

theorem started_enter (h : (s.enter c call).started = some call') :
    call' = call ∧ call.phase ≠ .consulting := by
  unfold enter at h
  split at h
  next => cases h
  next hphase =>
    cases h
    exact ⟨rfl, by rw [hphase]; nofun⟩
  next => simp at h

/-! ## A look-up -/

@[simp] theorem shared_decided (m : Mediator) :
    (s.decided c call m).service.shared = s.shared := by
  simp [decided]

@[simp] theorem dispatcher_decided (m : Mediator) :
    (s.decided c call m).service.dispatcher = s.dispatcher := by
  simp [decided]

theorem calls_decided_of_ne (m : Mediator) (h : d ≠ c) :
    (s.decided c call m).service.calls d = s.calls d := by
  simp [decided, calls_enter_of_ne h]

theorem calls_decided_self {m : Mediator}
    (h : (s.decided c call m).service.calls c = some call') :
    call' = { call with phase := (s.dispatcher.found m call.span).1 } :=
  calls_enter_self h

theorem started_decided {m : Mediator} (h : (s.decided c call m).started = some call') :
    call' = { call with phase := (s.dispatcher.found m call.span).1 } :=
  (started_enter h).1

/-- A look-up that gives a mediator decides its call, one that is given up ends it, and any other
leaves it undecided. -/
theorem settled_cases (s : Service α ε) (c : CallerId) (call : Call α ε) (o : Outcome) :
    (∃ q slot m, o = .returned (.fetched q slot) ∧ s.shared.registry.mediator? slot = some m ∧
        s.settled c call o = s.decided c call m) ∨
      (∃ o', o = .abandoned o' ∧ s.settled c call o = s.leave c call) ∨
      (∀ o', o ≠ .abandoned o') ∧
        (∀ q slot, o = .returned (.fetched q slot) →
          s.shared.registry.mediator? slot = none) ∧
        s.settled c call o = s.enter c call := by
  unfold settled
  split
  next q slot =>
    cases hm : s.shared.registry.mediator? slot with
    | some m => exact .inl ⟨q, slot, m, rfl, hm, rfl⟩
    | none =>
      refine .inr (.inr ⟨by simp, ?_, rfl⟩)
      rintro q' slot' heq
      cases heq
      exact hm
  next o' => exact .inr (.inl ⟨o', rfl, rfl⟩)
  next hreturned habandoned =>
    exact .inr (.inr ⟨habandoned, fun q slot hout => absurd hout (hreturned q slot), rfl⟩)

@[simp] theorem shared_settled (o : Outcome) :
    (s.settled c call o).service.shared = s.shared := by
  obtain ⟨_, _, _, -, -, h⟩ | ⟨_, -, h⟩ | ⟨-, -, h⟩ := s.settled_cases c call o <;> simp [h]

@[simp] theorem dispatcher_settled (o : Outcome) :
    (s.settled c call o).service.dispatcher = s.dispatcher := by
  obtain ⟨_, _, _, -, -, h⟩ | ⟨_, -, h⟩ | ⟨-, -, h⟩ := s.settled_cases c call o <;> simp [h]

theorem calls_settled_of_ne (o : Outcome) (h : d ≠ c) :
    (s.settled c call o).service.calls d = s.calls d := by
  obtain ⟨_, _, m, -, -, hs⟩ | ⟨_, -, hs⟩ | ⟨-, -, hs⟩ := s.settled_cases c call o
  · rw [hs, calls_decided_of_ne m h]
  · simp [hs, h]
  · rw [hs, calls_enter_of_ne h]

/-- A call that still looks up is the same one, and its look-up gave nothing. -/
theorem calls_settled_self {o : Outcome} (h : (s.settled c call o).service.calls c = some call')
    (hphase : call'.phase = .consulting) :
    call' = call ∧ (∀ o', o ≠ .abandoned o') ∧
      ∀ q slot, o = .returned (.fetched q slot) → s.shared.registry.mediator? slot = none := by
  obtain ⟨_, _, m, -, -, hs⟩ | ⟨_, -, hs⟩ | ⟨habandoned, hnone, hs⟩ := s.settled_cases c call o
  · rw [hs] at h
    rw [calls_decided_self h] at hphase
    cases hphase
  · simp [hs] at h
  · rw [hs] at h
    exact ⟨calls_enter_self h, habandoned, hnone⟩

/-- The call that a look-up starts is the one that looked up, in another phase. -/
theorem started_settled_eq {o : Outcome} (h : (s.settled c call o).started = some call') :
    ∃ phase, call' = { call with phase } := by
  obtain ⟨_, _, m, -, -, hs⟩ | ⟨_, -, hs⟩ | ⟨-, -, hs⟩ := s.settled_cases c call o
  · exact ⟨_, started_decided (hs ▸ h)⟩
  · simp [hs] at h
  · exact ⟨call.phase, (started_enter (hs ▸ h)).1⟩

/-- A look-up that starts its call's closure has given the mediator that decides. -/
theorem started_settled {o : Outcome} (hphase : call.phase = .consulting)
    (h : (s.settled c call o).started = some call') :
    ∃ q slot m, o = .returned (.fetched q slot) ∧ s.shared.registry.mediator? slot = some m ∧
      call'.interception = call.interception ∧
      call'.phase = .calling (Dispatcher.targetRoute (Dispatcher.target m)) (Dispatcher.target m)
        (some m.identity) := by
  obtain ⟨q, slot, m, hout, hm, hs⟩ | ⟨_, -, hs⟩ | ⟨-, -, hs⟩ := s.settled_cases c call o
  · obtain rfl := started_decided (hs ▸ h)
    exact ⟨q, slot, m, hout, hm, rfl, rfl⟩
  · simp [hs] at h
  · exact absurd hphase (started_enter (hs ▸ h)).2

end Service

/-! ## An interception -/

/-- A phase that no mediator has decided: if its closure runs, then on the business handle, and
not for want of a shadow. -/
def DispatchPhase.Direct {α ε : Type} (phase : DispatchPhase α ε) : Prop :=
  ∀ route target mediator, phase = .calling route target mediator →
    target = .business ∧ route ≠ .shadow ∧ route ≠ .fallback

theorem Dispatcher.direct_start {α ε : Type} (d : Dispatcher) (rules : Rules) (t : TrafficContext)
    (resource : Option String) (substitute : Option (Substitute α ε)) (span : Option SpanId) :
    (d.start rules t resource substitute span).1.Direct := by
  intro route target mediator hphase
  unfold start at hphase
  split at hphase
  · cases hphase
    exact ⟨rfl, by decide, by decide⟩
  · cases hphase
  · cases hphase
    exact ⟨rfl, by decide, by decide⟩
  · cases hphase
  · cases hphase

theorem Dispatcher.direct_mediate {α ε : Type} (d : Dispatcher) (rules : Rules)
    (t : TrafficContext) (boundary : String) (resource : Option String)
    (substitute : Option (Substitute α ε)) (entered : Bool) (around : Option SpanId)
    (fresh : SpanId) :
    (d.mediate rules t boundary resource substitute entered around fresh).1.Direct := by
  unfold mediate
  split
  · exact d.direct_start rules t resource substitute (some fresh)
  · intro route target mediator hphase
    cases hphase
    exact ⟨rfl, by decide, by decide⟩

namespace Service

variable {α ε : Type} {s : Service α ε} {c d : CallerId} {call call' : Call α ε}

theorem same_begun (x : Interception α ε) : Shared.Same s.shared (s.begun x).1.shared :=
  ⟨rfl, rfl⟩

@[simp] theorem calls_begun (x : Interception α ε) : (s.begun x).1.calls = s.calls := rfl

@[simp] theorem dispatcher_begun (x : Interception α ε) :
    (s.begun x).1.dispatcher = s.dispatcher := rfl

@[simp] theorem interception_begun (x : Interception α ε) :
    (s.begun x).2.1.interception = x := rfl

theorem direct_begun (x : Interception α ε) : (s.begun x).2.1.phase.Direct :=
  s.dispatcher.direct_mediate _ _ _ _ _ _ _ _

/-- What an interception can be: decided at once, or a look-up that has begun. -/
theorem intercept_cases {x : Interception α ε} {p : Progress α ε}
    (h : s.intercept c x = some p) :
    (∃ call : Call α ε, call.interception = x ∧ call.phase ≠ .consulting ∧ call.phase.Direct ∧
        p.stretch = none ∧ p.service = ((s.begun x).1.enter c call).service ∧
        p.started = ((s.begun x).1.enter c call).started) ∨
      ∃ q t, x.request? = .ok q ∧ (s.begun x).2.1.phase = .consulting ∧
        (s.begun x).1.shared.step c (.fetch q) = some t ∧ p.stretch = some t ∧
        p.service = ((s.begun x).1.lookedUp c (s.begun x).2.1 t).service ∧
        p.started = ((s.begun x).1.lookedUp c (s.begun x).2.1 t).started := by
  unfold intercept at h
  have hx := interception_begun (s := s) x
  have hdirect := direct_begun (s := s) x
  generalize s.begun x = begun at h hx hdirect ⊢
  obtain ⟨s', call, effects⟩ := begun
  dsimp only at h hx hdirect ⊢
  split at h
  next hphase =>
    split at h
    next e he =>
      cases h
      refine .inl ⟨{ call with phase := .ended (.error (.configuration e)) }, hx, ?_, ?_, ?_, rfl,
        rfl⟩
      · simp
      · intro route target mediator hcalling
        cases hcalling
      · simp
    next q hq =>
      obtain ⟨p', hp', rfl⟩ := Option.map_eq_some_iff.mp h
      obtain ⟨t, ht, rfl⟩ := Option.map_eq_some_iff.mp hp'
      exact .inr ⟨q, t, hq, hphase, ht, rfl, rfl, rfl⟩
  next hphase =>
    cases h
    exact .inl ⟨call, hx, hphase, hdirect, by simp, rfl, rfl⟩

/-- An interception whose closure runs without a look-up starts it at once. -/
theorem intercept_of_calling {x : Interception α ε} {route : Route} {target : Target}
    {mediator : Option Identity}
    (h : (s.begun x).2.1.phase = .calling route target mediator) :
    s.intercept c x = some
      { service := { (s.begun x).1 with
          calls := Function.update s.calls c (some (s.begun x).2.1) }
        started := some (s.begun x).2.1
        effects := (s.begun x).2.2 } := by
  unfold intercept
  have hcalls := calls_begun (s := s) x
  generalize s.begun x = begun at h hcalls ⊢
  obtain ⟨s', call, effects⟩ := begun
  dsimp only at h hcalls ⊢
  simp only [h, Option.map_some, enter, hcalls, List.append_nil]

/-- An interception that starts a closure starts that of its own call, in the phase it begins with
or in the one that a look-up leads to. -/
theorem started_intercept {x : Interception α ε} {p : Progress α ε}
    (h : s.intercept c x = some p) (hstarted : p.started = some call) :
    call = (s.begun x).2.1 ∨
      (s.begun x).2.1.phase = .consulting ∧ ∃ phase, call = { (s.begun x).2.1 with phase } := by
  unfold intercept at h
  generalize s.begun x = begun at h ⊢
  obtain ⟨s', call', effects⟩ := begun
  dsimp only at h ⊢
  split at h
  next hphase =>
    refine .inr ⟨hphase, ?_⟩
    split at h
    next e he =>
      cases h
      obtain ⟨rfl, -⟩ := started_enter hstarted
      exact ⟨_, rfl⟩
    next q hq =>
      obtain ⟨p', hp', rfl⟩ := Option.map_eq_some_iff.mp h
      obtain ⟨t, ht, rfl⟩ := Option.map_eq_some_iff.mp hp'
      exact started_settled_eq hstarted
  next hphase =>
    cases h
    exact .inl (started_enter hstarted).1

/-! ## Steps -/

/-- The actions that fit, and what each comes to. -/
inductive Advances (s : Service α ε) (c : CallerId) : ServiceAction α ε → Progress α ε → Prop
  | intercept {x : Interception α ε} {p : Progress α ε} (idle : s.calls c = none)
      (free : s.shared.ongoing c = none) (h : s.intercept c x = some p) :
      Advances s c (.intercept x) p
  | registry {a : Action} {t : Transition} (idle : s.calls c = none)
      (ht : s.shared.step c a = some t) :
      Advances s c (.registry a)
        { service := { s with shared := t.after }, stretch := some t, effects := t.effects }
  | lookUp {call : Call α ε} {a : Action} {t : Transition} (here : s.calls c = some call)
      (consulting : call.phase = .consulting) (ht : s.shared.step c a = some t) :
      Advances s c (.registry a) (s.lookedUp c call t)
  | finish {call : Call α ε} {route : Route} {target : Target} {mediator : Option Identity}
      (result : Except ε α) (here : s.calls c = some call)
      (calling : call.phase = .calling route target mediator) :
      Advances s c (.finish result)
        { s.leave c call with
          returned := some (Dispatcher.finish route target mediator result).1
          effects := (Dispatcher.finish route target mediator result).2 ++
            (s.leave c call).effects }
  | abandon {call : Call α ε} {route : Route} {target : Target} {mediator : Option Identity}
      (here : s.calls c = some call) (calling : call.phase = .calling route target mediator) :
      Advances s c .abandon (s.leave c call)
  | setEnabled (enabled : Bool) :
      Advances s c (.setEnabled enabled)
        { service := { s with dispatcher := (s.dispatcher.setEnabled enabled).1 }
          effects := (s.dispatcher.setEnabled enabled).2 }
  | setWhitelist (resources : List String) :
      Advances s c (.setWhitelist resources)
        { service := { s with dispatcher := (s.dispatcher.setWhitelist resources).1 }
          effects := (s.dispatcher.setWhitelist resources).2 }
  | reload (rules : Rules) :
      Advances s c (.reload rules)
        { service := { s with rules }
          effects := [.noticed (.rulesReloaded rules.markerKey rules.detectors.length)] }

theorem advances_of_progress? {a : ServiceAction α ε} {p : Progress α ε}
    (h : s.progress? c a = some p) : Advances s c a p := by
  unfold progress? at h
  split at h
  case h_1 x =>
    split at h
    next idle free => exact .intercept idle free h
    next => cases h
  case h_2 a =>
    split at h
    next idle =>
      obtain ⟨t, ht, rfl⟩ := Option.map_eq_some_iff.mp h
      exact .registry idle ht
    next call here =>
      split at h
      next consulting =>
        obtain ⟨t, ht, rfl⟩ := Option.map_eq_some_iff.mp h
        exact .lookUp here consulting ht
      next => cases h
  case h_3 result =>
    split at h
    next call here =>
      split at h
      next route target mediator calling =>
        cases h
        exact .finish result here calling
      next => cases h
    next => cases h
  case h_4 =>
    split at h
    next call here =>
      split at h
      next calling =>
        cases h
        exact .abandon here calling
      next => cases h
    next => cases h
  case h_5 enabled =>
    cases h
    exact .setEnabled enabled
  case h_6 resources =>
    cases h
    exact .setWhitelist resources
  case h_7 rules =>
    cases h
    exact .reload rules

theorem step_spec {a : ServiceAction α ε} {t : ServiceTransition α ε}
    (h : s.step c a = some t) : t.before = s ∧ Advances s c a t.progress := by
  obtain ⟨p, hp, rfl⟩ := Option.map_eq_some_iff.mp h
  exact ⟨rfl, advances_of_progress? hp⟩

end Service

end ShadowTraffic
