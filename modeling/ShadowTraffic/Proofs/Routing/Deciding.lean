import ShadowTraffic.Proofs.Routing.Recording

/-! # What a step decides

The route of a call is counted when it is decided: when its closure is started, or when the call is
answered without one. One inversion says for every step what it does for the call of its caller, and
which route it counts.
-/

namespace ShadowTraffic

/-- Whether the calls of a route run their closures. -/
def Route.runs : Route → Bool
  | rejected | mock => false
  | _ => true

/-! ## Phases and answers -/

section

variable {α ε : Type}

/-- The routes that a judgement allows. A look-up leads to a shadow or falls back. -/
def Decision.Allows : Decision α ε → Route → Prop
  | business, route => route = .business
  | reject _, route => route = .rejected
  | whitelisted _, route => route = .whitelisted
  | answer _, route => route = .mock
  | consult, route => route = .shadow ∨ route = .fallback

/-- The routes that are counted for an answer: those that fit it, and for the failure of a nested
attempt its own. -/
inductive Charged : Except (DispatchError ε) (Dispatched α) → List Route → Prop
  | told {answer : Except (DispatchError ε) (Dispatched α)} {routes : List Route}
      (h : Told answer routes) : Charged answer routes
  | reentrant (e : ε) : Charged (.error (.business e)) [.reentrant]

/-- The routes that are counted up to a phase. -/
inductive DispatchPhase.Charges : DispatchPhase α ε → List Route → Prop
  | fits {phase : DispatchPhase α ε} {routes : List Route} (h : phase.Fits routes) :
      Charges phase routes
  | reentrant : Charges (.calling .reentrant .business none) [.reentrant]

theorem DispatchPhase.Charges.of_consulting {routes : List Route}
    (h : (DispatchPhase.consulting : DispatchPhase α ε).Charges routes) : routes = [] := by
  cases h with
  | fits h => exact h.of_consulting

theorem DispatchPhase.Charges.of_ended {answer : Except (DispatchError ε) (Dispatched α)}
    {routes : List Route} (h : (DispatchPhase.ended answer).Charges routes) :
    Told answer routes := by
  cases h with
  | fits h =>
    cases h with
    | ended told => exact told

/-- Only a closure that runs has a route like that. -/
theorem DispatchPhase.Charges.of_calling {route : Route} {target : Target}
    {mediator : Option Identity} {routes : List Route}
    (h : (DispatchPhase.calling route target mediator : DispatchPhase α ε).Charges routes) :
    routes = [route] ∧ route.runs = true := by
  cases h with
  | fits h =>
    cases h with
    | direct h => rcases h with rfl | rfl <;> exact ⟨rfl, rfl⟩
    | found m => cases Dispatcher.target m <;> exact ⟨rfl, rfl⟩
  | reentrant => exact ⟨rfl, rfl⟩

@[simp] theorem routesCounted_nil : routesCounted [] = [] := rfl

@[simp] theorem routesCounted_noticed (n : Notice) (effects : List Effect) :
    routesCounted (.noticed n :: effects) = routesCounted effects := rfl

/-- The end of a closure is told with the route that it was started with. -/
theorem DispatchPhase.Charges.finish {route : Route} {target : Target} {mediator : Option Identity}
    {routes : List Route}
    (h : (DispatchPhase.calling route target mediator : DispatchPhase α ε).Charges routes)
    (result : Except ε α) : Charged (Dispatcher.finish route target mediator result).1 routes := by
  cases h with
  | fits h => exact .told (Dispatcher.finish_told h result)
  | reentrant =>
    cases result with
    | ok value => exact .told (.value ⟨value, .reentrant⟩)
    | error e => exact .reentrant e

namespace Dispatcher

theorem targetRoute_eq (target : Target) :
    targetRoute target = .shadow ∨ targetRoute target = .fallback := by
  cases target with
  | business => exact .inr rfl
  | shadow handle => exact .inl rfl

@[simp] theorem routesCounted_routed (span : Option SpanId) (route : Route) :
    routesCounted (routed span route) = [route] := by
  cases span <;> rfl

@[simp] theorem routesCounted_targetNotices (d : Dispatcher) (m : Mediator) :
    routesCounted (d.targetNotices m) = [] := by
  unfold targetNotices
  split
  · rfl
  · split <;> rfl

@[simp] theorem routesCounted_finish (route : Route) (target : Target)
    (mediator : Option Identity) (result : Except ε α) :
    routesCounted (finish route target mediator result).2 = [] := by
  unfold finish
  split
  · rfl
  · split <;> rfl

/-- The first phase counts what it records on its span. -/
theorem routesCounted_start (d : Dispatcher) (id : SpanId) (rules : Rules) (t : TrafficContext)
    (resource : Option String) (substitute : Option (Substitute α ε)) :
    routesCounted (d.start rules t resource substitute (some id)).2 =
      routesOn id (d.start rules t resource substitute (some id)).2 := by
  unfold start
  split <;> simp [routed, routesCounted, routesOn]

/-- The first phase counts only what it is judged to, and leaves the rest to a look-up. What it
answers itself runs no closure. -/
theorem start_allowed (d : Dispatcher) (rules : Rules) (t : TrafficContext)
    (resource : Option String) (substitute : Option (Substitute α ε)) (span : Option SpanId) :
    (∀ route ∈ routesCounted (d.start rules t resource substitute span).2,
        (d.judge rules t resource substitute).Allows route) ∧
      ((d.start rules t resource substitute span).1 = .consulting →
        d.judge rules t resource substitute = .consult) ∧
      ∀ answer, (d.start rules t resource substitute span).1 = .ended answer →
        ∀ route ∈ routesCounted (d.start rules t resource substitute span).2,
          route.runs = false := by
  unfold start
  cases d.judge rules t resource substitute <;> simp [Decision.Allows, Route.runs]

end Dispatcher

end

/-! ## What a step decides -/

/-- What a step counts, starts and gives back. -/
structure Progress.Does {α ε : Type} (p : Progress α ε) (routes : List Route)
    (started : Option (Call α ε)) (returned : Option (Except (DispatchError ε) (Dispatched α))) :
    Prop where
  counted : routesCounted p.effects = routes
  started : p.started = started
  returned : p.returned = returned

namespace Service

variable {α ε : Type} {s : Service α ε} {c : CallerId} {a : ServiceAction α ε}
  {t : ServiceTransition α ε} {call : Call α ε} {p : Progress α ε}

/-- The routes that an interception can take where it is made. -/
def Takes (s : Service α ε) (x : Interception α ε) (route : Route) : Prop :=
  if (s.begun x).2.1.ticket.entered then
    (s.dispatcher.judge s.rules x.traffic x.resource x.substitute).Allows route
  else route = .reentrant

theorem leave_does (s : Service α ε) (c : CallerId) (call : Call α ε) :
    (s.leave c call).Does [] none none :=
  ⟨(quiet_exit 0 _ _).routesCounted_eq_nil, rfl, rfl⟩

theorem enter_consulting (s : Service α ε) (c : CallerId) (call : Call α ε)
    (h : call.phase = .consulting) :
    (s.enter c call).service.calls c = some call ∧ (s.enter c call).Does [] none none := by
  unfold enter
  rw [h]
  exact ⟨Function.update_self .., rfl, rfl, rfl⟩

theorem enter_calling (s : Service α ε) (c : CallerId) (call : Call α ε) {route : Route}
    {target : Target} {mediator : Option Identity}
    (h : call.phase = .calling route target mediator) :
    (s.enter c call).service.calls c = some call ∧ (s.enter c call).Does [] (some call) none := by
  unfold enter
  rw [h]
  exact ⟨Function.update_self .., rfl, rfl, rfl⟩

theorem enter_ended (s : Service α ε) (c : CallerId) (call : Call α ε)
    {answer : Except (DispatchError ε) (Dispatched α)} (h : call.phase = .ended answer) :
    (s.enter c call).service.calls c = none ∧ (s.enter c call).Does [] none (some answer) := by
  unfold enter
  rw [h]
  exact ⟨by simp, (s.leave_does c call).counted, rfl, rfl⟩

/-- What a stretch of a look-up comes to for its call. -/
inductive Looks (c : CallerId) (call : Call α ε) (b : Action) (p : Progress α ε) : Prop
  /-- A mediator was found, and the closure is started. -/
  | finds (m : Mediator) {call' : Call α ε} (here : p.service.calls c = some call')
      (calling : call'.phase = .calling (Dispatcher.targetRoute (Dispatcher.target m))
        (Dispatcher.target m) (some m.identity))
      (does : p.Does [Dispatcher.targetRoute (Dispatcher.target m)] (some call') none)
  | goesAway (away : b = .abandon) (gone : p.service.calls c = none) (does : p.Does [] none none)
  | goesOn (here : p.service.calls c = some call) (does : p.Does [] none none)

theorem lookedUp_looks {mid : Shared} {b : Action} {u : Transition}
    (hphase : call.phase = .consulting) (hu : mid.step c b = some u) :
    Looks c call b (s.lookedUp c call u) := by
  have hquiet := (Shared.step_quiet hu).1.routesCounted_eq_nil
  have hgoesOn := enter_consulting { s with shared := u.after } c call hphase
  unfold lookedUp
  dsimp only
  obtain ⟨_, _, m, -, -, hs⟩ | ⟨_, hout, hs⟩ | ⟨-, -, hs⟩ :=
    ({ s with shared := u.after } : Service α ε).settled_cases c call u.outcome
  · have hfound := enter_calling { s with shared := u.after } c
      { call with phase := (s.dispatcher.found m call.span).1 } rfl
    have heffects := hfound.2.counted
    rw [hs]
    refine .finds m hfound.1 rfl ⟨?_, hfound.2.started, hfound.2.returned⟩
    simp only [decided, Dispatcher.found, routesCounted_append, hquiet] at heffects ⊢
    simp [heffects]
  · have heffects := (leave_does { s with shared := u.after } c call).counted
    rw [hs]
    exact .goesAway (Shared.step_abandoned hu hout) (by simp) ⟨by simp [hquiet, heffects], rfl, rfl⟩
  · rw [hs]
    exact .goesOn hgoesOn.1 ⟨by simp [hquiet, hgoesOn.2.counted], hgoesOn.2.2, hgoesOn.2.3⟩

/-- Everything that a step can do for the call of its caller. -/
inductive Resolves (s : Service α ε) (c : CallerId) : ServiceAction α ε → Progress α ε → Prop
  /-- An interception begins a look-up. -/
  | looksUp {x : Interception α ε} {p : Progress α ε} {call : Call α ε} (idle : s.calls c = none)
      (here : p.service.calls c = some call) (consulting : call.phase = .consulting)
      (does : p.Does [] none none)
      (own : ∀ route, route = .shadow ∨ route = .fallback → s.Takes x route) :
      Resolves s c (.intercept x) p
  /-- An interception starts its closure. -/
  | starts {x : Interception α ε} {p : Progress α ε} {call : Call α ε} {route : Route}
      {target : Target} {mediator : Option Identity} (idle : s.calls c = none)
      (here : p.service.calls c = some call) (calling : call.phase = .calling route target mediator)
      (charges : call.phase.Charges [route]) (does : p.Does [route] (some call) none)
      (own : s.Takes x route) : Resolves s c (.intercept x) p
  /-- An interception is answered at once. -/
  | answers {x : Interception α ε} {p : Progress α ε} {routes : List Route}
      {answer : Except (DispatchError ε) (Dispatched α)} (idle : s.calls c = none)
      (gone : p.service.calls c = none) (told : Told answer routes)
      (does : p.Does routes none (some answer)) (own : ∀ route ∈ routes, s.Takes x route)
      (unrun : ∀ route ∈ routes, route.runs = false) :
      Resolves s c (.intercept x) p
  /-- A look-up gives the mediator that decides, and the closure is started. -/
  | finds {b : Action} {p : Progress α ε} {call call' : Call α ε} (m : Mediator)
      (before : s.calls c = some call) (consulting : call.phase = .consulting)
      (here : p.service.calls c = some call')
      (calling : call'.phase = .calling (Dispatcher.targetRoute (Dispatcher.target m))
        (Dispatcher.target m) (some m.identity))
      (does : p.Does [Dispatcher.targetRoute (Dispatcher.target m)] (some call') none) :
      Resolves s c (.registry b) p
  | ends {result : Except ε α} {p : Progress α ε} {call : Call α ε} {route : Route}
      {target : Target} {mediator : Option Identity} (before : s.calls c = some call)
      (calling : call.phase = .calling route target mediator) (gone : p.service.calls c = none)
      (does : p.Does [] none (some (Dispatcher.finish route target mediator result).1)) :
      Resolves s c (.finish result) p
  | goesAway {a : ServiceAction α ε} {p : Progress α ε} {call : Call α ε} (away : a.GoesAway)
      (before : s.calls c = some call) (gone : p.service.calls c = none)
      (does : p.Does [] none none) : Resolves s c a p
  /-- The call of the caller, if it has one, is not concerned. -/
  | goesOn {a : ServiceAction α ε} {p : Progress α ε} (other : ∀ x, a ≠ .intercept x)
      (same : p.service.calls c = s.calls c) (does : p.Does [] none none) : Resolves s c a p

/-- What an interception counts in its first phase is what it can take. -/
theorem begun_charges (s : Service α ε) (x : Interception α ε) :
    (s.begun x).2.1.phase.Charges (routesCounted (s.begun x).2.2) ∧
      (∀ route ∈ routesCounted (s.begun x).2.2, s.Takes x route) ∧
      ((s.begun x).2.1.phase = .consulting →
        ∀ route, route = .shadow ∨ route = .fallback → s.Takes x route) ∧
      ∀ answer, (s.begun x).2.1.phase = .ended answer →
        ∀ route ∈ routesCounted (s.begun x).2.2, route.runs = false := by
  unfold Takes
  cases hentered : (s.begun x).2.1.ticket.entered with
  | true =>
    obtain ⟨hphase, heffects⟩ := begun_of_entered hentered
    have hfits := s.dispatcher.start_fits s.shared.spans s.rules x.traffic x.resource x.substitute
    have hcounted := s.dispatcher.routesCounted_start s.shared.spans s.rules x.traffic x.resource
      x.substitute
    obtain ⟨hallowed, hconsult, hunrun⟩ := s.dispatcher.start_allowed s.rules x.traffic x.resource
      x.substitute (some s.shared.spans)
    have hroutes : routesCounted (s.begun x).2.2 = routesCounted (s.dispatcher.start s.rules
        x.traffic x.resource x.substitute (some s.shared.spans)).2 := by
      rw [heffects]
      rfl
    rw [hroutes, hphase]
    refine ⟨.fits (hcounted ▸ hfits), hallowed, fun hconsulting => ?_, hunrun⟩
    intro route hroute
    rw [if_pos rfl, hconsult hconsulting]
    exact hroute
  | false =>
    obtain ⟨hphase, heffects⟩ := begun_of_skipped hentered
    rw [hphase, heffects, Dispatcher.routesCounted_routed]
    exact ⟨.reentrant, by simp, nofun, nofun⟩

theorem resolves_of_intercept {x : Interception α ε} (idle : s.calls c = none)
    (hx : s.intercept c x = some p) : Resolves s c (.intercept x) p := by
  obtain ⟨hcharges, hown, hconsult, hunrun⟩ := s.begun_charges x
  obtain ⟨p', hp', rfl⟩ := intercepts_of_intercept hx
  cases hp' with
  | decided hdecided =>
    cases hphase : (s.begun x).2.1.phase with
    | consulting => exact absurd hphase hdecided
    | calling route target mediator =>
      obtain ⟨hhere, hdoes⟩ := enter_calling (s.begun x).1 c (s.begun x).2.1 hphase
      rw [hphase] at hcharges
      have hroutes := hcharges.of_calling.1
      rw [hroutes] at hcharges hown
      refine .starts idle hhere hphase (hphase ▸ hcharges) ⟨?_, hdoes.started, hdoes.returned⟩
        (hown route (List.mem_singleton_self route))
      rw [routesCounted_append, hroutes, hdoes.counted, List.append_nil]
    | ended answer =>
      obtain ⟨hgone, hdoes⟩ := enter_ended (s.begun x).1 c (s.begun x).2.1 hphase
      rw [hphase] at hcharges
      refine .answers idle hgone hcharges.of_ended ⟨?_, hdoes.started, hdoes.returned⟩ hown
        (hunrun answer hphase)
      rw [routesCounted_append, hdoes.counted, List.append_nil]
  | @refused hconsulting e he =>
    obtain ⟨hgone, hdoes⟩ := enter_ended (s.begun x).1 c
      { (s.begun x).2.1 with phase := .ended (.error (.configuration e)) } rfl
    rw [hconsulting] at hcharges
    refine .answers idle hgone (.configuration e) ⟨?_, hdoes.started, hdoes.returned⟩ (by simp)
      (by simp)
    rw [routesCounted_append, hcharges.of_consulting, hdoes.counted]
    rfl
  | looksUp hconsulting hq hu =>
    have hlooks := lookedUp_looks (s := (s.begun x).1) hconsulting hu
    rw [hconsulting] at hcharges
    have hnone := hcharges.of_consulting
    generalize (s.begun x).1.lookedUp c (s.begun x).2.1 _ = q at hlooks ⊢
    cases hlooks with
    | finds m here calling does =>
      refine .starts idle here calling (calling ▸ .fits (.found m)) ⟨?_, does.started, does.returned⟩
        (hconsult hconsulting _ (Dispatcher.targetRoute_eq _))
      rw [routesCounted_append, hnone, does.counted, List.nil_append]
    | goesAway away gone does => cases away
    | goesOn here does =>
      refine .looksUp idle here hconsulting ⟨?_, does.started, does.returned⟩ (hconsult hconsulting)
      rw [routesCounted_append, hnone, does.counted]
      rfl

theorem resolves (h : s.progress? c a = some p) : Resolves s c a p := by
  cases advances_of_progress? h with
  | intercept idle free hx => exact resolves_of_intercept idle hx
  | registry idle hu =>
    exact .goesOn (by simp) rfl ⟨(Shared.step_quiet hu).1.routesCounted_eq_nil, rfl, rfl⟩
  | lookUp here consulting hu =>
    cases lookedUp_looks consulting hu with
    | finds m here' calling does => exact .finds m here consulting here' calling does
    | goesAway away gone does => exact .goesAway (.inr (by rw [away])) here gone does
    | goesOn here' does => exact .goesOn (by simp) (here'.trans here.symm) does
  | @finish call route target mediator result here calling =>
    have hleave := s.leave_does c call
    refine .ends here calling (by simp) ⟨?_, rfl, rfl⟩
    rw [routesCounted_append, Dispatcher.routesCounted_finish, hleave.counted]
    rfl
  | abandon here calling => exact .goesAway (.inl rfl) here (by simp) (s.leave_does c _)
  | setEnabled enabled =>
    refine .goesOn (by simp) rfl ⟨?_, rfl, rfl⟩
    unfold Dispatcher.setEnabled
    dsimp only
    split <;> rfl
  | setWhitelist resources =>
    refine .goesOn (by simp) rfl ⟨?_, rfl, rfl⟩
    simp [Dispatcher.setWhitelist]
  | reload rules =>
    refine .goesOn (by simp) rfl ⟨?_, rfl, rfl⟩
    simp

theorem step_resolves (ht : s.step c a = some t) :
    t.before = s ∧ t.caller = c ∧ t.action = a ∧ Resolves s c a t.progress := by
  obtain ⟨p, hp, rfl⟩ := Option.map_eq_some_iff.mp ht
  exact ⟨rfl, rfl, rfl, resolves hp⟩

end Service

end ShadowTraffic
