import ShadowTraffic.Proofs.Routing.Targets
import ShadowTraffic.Proofs.Telemetry.Openings

/-! # What a step records on spans

An accepted interception opens a dispatch span, and the steps of its call record the route that is
decided on: nothing while the mediator is looked up, the route of the closure once it runs, and the
route of the answer when there is no closure. A step of another call records nothing there, unless
it is a nested attempt that is skipped inside the span.
-/

namespace ShadowTraffic

/-- The routes that fit an answer: its own, or that of the failure. -/
inductive Told {α ε : Type} : Except (DispatchError ε) (Dispatched α) → List Route → Prop
  | value (answer : Dispatched α) : Told (.ok answer) [answer.route]
  | switchedOff : Told (.error .switchedOff) [.rejected]
  | substituted (e : ε) : Told (.error (.substituted e)) [.mock]
  | shadow (identity : Identity) (e : ε) : Told (.error (.shadow identity e)) [.shadow]
  | configuration (e : IdentityError) : Told (.error (.configuration e)) []
  | business (e : ε) {route : Route}
      (h : route = .business ∨ route = .whitelisted ∨ route = .fallback) :
      Told (.error (.business e)) [route]

/-- The routes that fit a phase: none before the decision, and afterwards the one decided on. -/
inductive DispatchPhase.Fits {α ε : Type} : DispatchPhase α ε → List Route → Prop
  | consulting : Fits .consulting []
  | direct {route : Route} (h : route = .business ∨ route = .whitelisted) :
      Fits (.calling route .business none) [route]
  | found (m : Mediator) :
      Fits (.calling (Dispatcher.targetRoute (Dispatcher.target m)) (Dispatcher.target m)
        (some m.identity)) [Dispatcher.targetRoute (Dispatcher.target m)]
  | ended {result : Except (DispatchError ε) (Dispatched α)} {routes : List Route}
      (told : Told result routes) : Fits (.ended result) routes

section

variable {α ε : Type} {routes : List Route}

theorem Told.length_le {answer : Except (DispatchError ε) (Dispatched α)}
    (h : Told answer routes) : routes.length ≤ 1 := by
  cases h <;> simp

theorem DispatchPhase.Fits.length_le {phase : DispatchPhase α ε} (h : phase.Fits routes) :
    routes.length ≤ 1 := by
  cases h with
  | ended told => exact told.length_le
  | _ => simp

theorem DispatchPhase.Fits.of_consulting
    (h : (DispatchPhase.consulting : DispatchPhase α ε).Fits routes) : routes = [] := by
  cases h
  rfl

theorem DispatchPhase.Fits.of_calling {route : Route} {target : Target}
    {mediator : Option Identity}
    (h : (DispatchPhase.calling route target mediator : DispatchPhase α ε).Fits routes) :
    routes = [route] := by
  cases h <;> rfl

end

/-! ## What a dispatch records -/

namespace Dispatcher

variable {α ε : Type} {id fresh : SpanId}

theorem routesOn_routed (route : Route) : routesOn id (routed (some id) route) = [route] := by
  simp [routed, routesOn]

theorem routesOn_routed_ne {span : Option SpanId} (h : span ≠ some id) (route : Route) :
    routesOn id (routed span route) = [] := by
  cases span with
  | none => rfl
  | some i =>
    have hi : i ≠ id := fun heq => h (congrArg some heq)
    simp [routed, routesOn, hi]

theorem openings_routed (span : Option SpanId) (route : Route) :
    openings id (routed span route) = [] := by
  cases span <;> rfl

theorem routesOn_targetNotices (d : Dispatcher) (m : Mediator) :
    routesOn id (d.targetNotices m) = [] := by
  unfold targetNotices
  split
  · rfl
  · split <;> rfl

theorem openings_targetNotices (d : Dispatcher) (m : Mediator) :
    openings id (d.targetNotices m) = [] := by
  unfold targetNotices
  split
  · rfl
  · split <;> rfl

/-- The first phase records its route, if it decides. -/
theorem start_fits (d : Dispatcher) (id : SpanId) (rules : Rules) (t : TrafficContext)
    (resource : Option String) (substitute : Option (Substitute α ε)) :
    (d.start rules t resource substitute (some id)).1.Fits
      (routesOn id (d.start rules t resource substitute (some id)).2) := by
  have hnotice (n : Notice) (effects : List Effect) :
      routesOn id (.noticed n :: effects) = routesOn id effects := rfl
  unfold start
  split
  · rw [routesOn_routed]
    exact .direct (.inl rfl)
  · rw [hnotice, routesOn_routed]
    exact .ended .switchedOff
  · rw [hnotice, routesOn_routed]
    exact .direct (.inr rfl)
  next a _ =>
    rw [hnotice, routesOn_routed]
    cases a with
    | ok value => exact .ended (.value ⟨value, .mock⟩)
    | error e => exact .ended (.substituted e)
  · exact .consulting

theorem routesOn_start_ne (d : Dispatcher) (rules : Rules) (t : TrafficContext)
    (resource : Option String) (substitute : Option (Substitute α ε)) (hne : fresh ≠ id) :
    routesOn id (d.start rules t resource substitute (some fresh)).2 = [] := by
  have hspan : some fresh ≠ some id := fun h => hne (Option.some.inj h)
  have hnotice (n : Notice) (effects : List Effect) :
      routesOn id (.noticed n :: effects) = routesOn id effects := rfl
  unfold start
  split
  · exact routesOn_routed_ne hspan _
  · rw [hnotice, routesOn_routed_ne hspan]
  · rw [hnotice, routesOn_routed_ne hspan]
  · rw [hnotice, routesOn_routed_ne hspan]
  · rfl

theorem openings_start (d : Dispatcher) (id : SpanId) (rules : Rules) (t : TrafficContext)
    (resource : Option String) (substitute : Option (Substitute α ε)) (span : Option SpanId) :
    openings id (d.start rules t resource substitute span).2 = [] := by
  have hnotice (n : Notice) (effects : List Effect) :
      openings id (.noticed n :: effects) = openings id effects := rfl
  unfold start
  split
  · exact openings_routed ..
  · rw [hnotice, openings_routed]
  · rw [hnotice, openings_routed]
  · rw [hnotice, openings_routed]
  · rfl

/-- A mediator that was found decides, and its route is recorded. -/
theorem found_fits {d : Dispatcher} {m : Mediator} {phase : DispatchPhase α ε}
    {effects : List Effect} (h : d.found m (some id) = (phase, effects)) :
    phase.Fits (routesOn id effects) := by
  simp only [found, Prod.mk.injEq] at h
  obtain ⟨rfl, rfl⟩ := h
  rw [routesOn_append, routesOn_targetNotices, routesOn_routed]
  exact .found m

/-- The end of a closure is told with the route that it was started with, and records none. -/
theorem finish_told {route : Route} {target : Target} {mediator : Option Identity}
    {routes : List Route}
    (h : (DispatchPhase.calling route target mediator : DispatchPhase α ε).Fits routes)
    (result : Except ε α) :
    Told (finish route target mediator result).1 routes := by
  cases result with
  | ok value =>
    rw [h.of_calling]
    exact .value ⟨value, route⟩
  | error e =>
    cases h with
    | direct hroute => exact .business e (by tauto)
    | found m =>
      cases htarget : target m with
      | business => exact .business e (.inr (.inr rfl))
      | shadow handle => exact .shadow m.identity e

theorem routesOn_finish (route : Route) (target : Target) (mediator : Option Identity)
    (result : Except ε α) : routesOn id (finish route target mediator result).2 = [] := by
  unfold finish
  split
  · rfl
  · split <;> rfl

theorem openings_finish (route : Route) (target : Target) (mediator : Option Identity)
    (result : Except ε α) : openings id (finish route target mediator result).2 = [] := by
  unfold finish
  split
  · rfl
  · split <;> rfl

end Dispatcher

/-- An action by which a caller goes away, out of its closure or out of a look-up. -/
def ServiceAction.GoesAway {α ε : Type} (a : ServiceAction α ε) : Prop :=
  a = .abandon ∨ a = .registry .abandon

/-- The dispatch span of the call that an action of a caller is about. -/
def Service.span? {α ε : Type} (s : Service α ε) (c : CallerId) :
    ServiceAction α ε → Option SpanId
  | .intercept x => (s.begun x).2.1.span
  | _ => (s.calls c).bind (·.span)

/-- The dispatch span of the call that a step is about. -/
def ServiceTransition.span? {α ε : Type} (t : ServiceTransition α ε) : Option SpanId :=
  t.before.span? t.caller t.action

namespace Service

variable {α ε : Type} {s : Service α ε} {c d : CallerId} {a : ServiceAction α ε}
  {t : ServiceTransition α ε} {call : Call α ε} {id fresh : SpanId}

/-! ## Parts of steps -/

@[simp] theorem routesOn_leave : routesOn id (s.leave c call).effects = [] :=
  (quiet_exit id _ _).routesOn_eq_nil

@[simp] theorem openings_leave : openings id (s.leave c call).effects = [] :=
  (quiet_exit (id + 1) _ _).openings_eq_nil (Nat.ne_of_lt (Nat.lt_succ_self id))

@[simp] theorem routesOn_enter : routesOn id (s.enter c call).effects = [] := by
  unfold enter
  split
  · rfl
  · rfl
  · exact routesOn_leave (c := c)

@[simp] theorem openings_enter : openings id (s.enter c call).effects = [] := by
  unfold enter
  split
  · rfl
  · rfl
  · exact openings_leave (c := c)

theorem routesOn_settled (h : call.span ≠ some id) (o : Outcome) :
    routesOn id (s.settled c call o).effects = [] := by
  obtain ⟨_, _, _, -, -, hs⟩ | ⟨_, -, hs⟩ | ⟨-, -, hs⟩ := s.settled_cases c call o
  · simp [hs, decided, Dispatcher.found, Dispatcher.routesOn_targetNotices,
      Dispatcher.routesOn_routed_ne h]
  · rw [hs, routesOn_leave]
  · rw [hs, routesOn_enter]

theorem openings_settled (o : Outcome) : openings id (s.settled c call o).effects = [] := by
  obtain ⟨_, _, _, -, -, hs⟩ | ⟨_, -, hs⟩ | ⟨-, -, hs⟩ := s.settled_cases c call o
  · simp [hs, decided, Dispatcher.found, Dispatcher.openings_targetNotices,
      Dispatcher.openings_routed]
  · rw [hs, openings_leave]
  · rw [hs, openings_enter]

theorem span_begun (x : Interception α ε) :
    (s.begun x).2.1.span =
      if (s.begun x).2.1.ticket.entered then some s.shared.spans else none := by
  have hmediate : (s.begun x).2.1.span =
      (s.dispatcher.mediate s.rules x.traffic x.boundary x.resource x.substitute
        (s.begun x).2.1.ticket.entered x.around s.shared.spans).2.1 := rfl
  rw [hmediate, Dispatcher.mediate]
  split <;> rfl

/-- An accepted interception opens its span and reports what the first phase reports. -/
theorem begun_of_entered {x : Interception α ε} (h : (s.begun x).2.1.ticket.entered = true) :
    (s.begun x).2.1.phase = (s.dispatcher.start s.rules x.traffic x.resource x.substitute
        (some s.shared.spans)).1 ∧
      (s.begun x).2.2 = .opened s.shared.spans (.dispatch x.boundary x.resource) ::
        (s.dispatcher.start s.rules x.traffic x.resource x.substitute
          (some s.shared.spans)).2 := by
  have hmediate : ((s.begun x).2.1.phase, (s.begun x).2.1.span, (s.begun x).2.2) =
      s.dispatcher.mediate s.rules x.traffic x.boundary x.resource x.substitute
        (s.begun x).2.1.ticket.entered x.around s.shared.spans := rfl
  rw [h, Dispatcher.mediate, if_pos rfl] at hmediate
  simp only [Prod.mk.injEq] at hmediate
  exact ⟨hmediate.1, hmediate.2.2⟩

/-- A nested attempt records its route around itself. -/
theorem begun_of_skipped {x : Interception α ε} (h : (s.begun x).2.1.ticket.entered = false) :
    (s.begun x).2.1.phase = .calling .reentrant .business none ∧
      (s.begun x).2.2 = Dispatcher.routed x.around .reentrant := by
  have hmediate : ((s.begun x).2.1.phase, (s.begun x).2.1.span, (s.begun x).2.2) =
      s.dispatcher.mediate s.rules x.traffic x.boundary x.resource x.substitute
        (s.begun x).2.1.ticket.entered x.around s.shared.spans := rfl
  rw [h, Dispatcher.mediate, if_neg (by simp)] at hmediate
  simp only [Prod.mk.injEq] at hmediate
  exact ⟨hmediate.1, hmediate.2.2⟩

/-- What an interception goes on with after its first phase. -/
inductive Intercepts (s : Service α ε) (c : CallerId) (x : Interception α ε) :
    Progress α ε → Prop
  | decided (h : (s.begun x).2.1.phase ≠ .consulting) :
      Intercepts s c x ((s.begun x).1.enter c (s.begun x).2.1)
  | refused (h : (s.begun x).2.1.phase = .consulting) {e : IdentityError}
      (he : x.request? = .error e) :
      Intercepts s c x
        ((s.begun x).1.enter c
          { (s.begun x).2.1 with phase := .ended (.error (.configuration e)) })
  | looksUp (h : (s.begun x).2.1.phase = .consulting) {q : Request} (hq : x.request? = .ok q)
      {u : Transition} (hu : (s.begun x).1.shared.step c (.fetch q) = some u) :
      Intercepts s c x ((s.begun x).1.lookedUp c (s.begun x).2.1 u)

/-- The effects of an interception are those of its first phase, and those that follow. -/
theorem intercepts_of_intercept {x : Interception α ε} {p : Progress α ε}
    (hx : s.intercept c x = some p) :
    ∃ p', Intercepts s c x p' ∧ p = { p' with effects := (s.begun x).2.2 ++ p'.effects } := by
  obtain ⟨p', hp', rfl⟩ := Option.map_eq_some_iff.mp hx
  refine ⟨p', ?_, rfl⟩
  split at hp'
  next hconsulting =>
    split at hp'
    next e he =>
      cases hp'
      exact .refused hconsulting he
    next q hq =>
      obtain ⟨u, hu, rfl⟩ := Option.map_eq_some_iff.mp hp'
      exact .looksUp hconsulting hq hu
  next hdecided =>
    cases hp'
    exact .decided hdecided

/-! ## Steps of the call itself -/

/-- What a step of its caller leaves of a call with a dispatch span, when the steps so far have
recorded these routes on it. The call may be given up if the routes allow that. -/
inductive Onward (id : SpanId) (c : CallerId) (allowed : List Route → Prop) (p : Progress α ε)
    (routes : List Route) : Prop
  | underWay {call : Call α ε} (here : p.service.calls c = some call) (span : call.span = some id)
      (fits : call.phase.Fits routes)
      (started : ∀ call', p.started = some call' → call' = call ∧
        ∃ route target mediator, call.phase = .calling route target mediator)
  | answered {answer : Except (DispatchError ε) (Dispatched α)} (gone : p.service.calls c = none)
      (returned : p.returned = some answer) (told : Told answer routes)
      (started : p.started = none)
  | givenUp (gone : p.service.calls c = none) (unanswered : p.returned = none)
      (allowed : allowed routes) (started : p.started = none)

variable {p : Progress α ε} {routes : List Route} {allowed : List Route → Prop}

/-- Neither the effects nor the stretch matter. -/
theorem Onward.reporting (h : Onward id c allowed p routes) (stretch : Option Transition)
    (effects : List Effect) : Onward id c allowed { p with stretch, effects } routes := by
  cases h with
  | underWay here span fits started => exact .underWay here span fits started
  | answered gone returned told started => exact .answered gone returned told started
  | givenUp gone unanswered h started => exact .givenUp gone unanswered h started

theorem Onward.allowing {wider : List Route → Prop} (h : Onward id c allowed p routes)
    (himp : allowed routes → wider routes) : Onward id c wider p routes := by
  cases h with
  | underWay here span fits started => exact .underWay here span fits started
  | answered gone returned told started => exact .answered gone returned told started
  | givenUp gone unanswered h started => exact .givenUp gone unanswered (himp h) started

theorem enter_onward (hspan : call.span = some id) (hfits : call.phase.Fits routes) :
    Onward id c allowed (s.enter c call) routes := by
  unfold enter
  split
  · exact .underWay (Function.update_self ..) hspan hfits (by simp)
  next route target mediator hphase =>
    refine .underWay (Function.update_self ..) hspan hfits fun call' hcall' => ?_
    cases hcall'
    exact ⟨rfl, route, target, mediator, hphase⟩
  next result hphase =>
    rw [hphase] at hfits
    cases hfits with
    | ended told => exact .answered (by simp) rfl told rfl

theorem refused_onward (hspan : call.span = some id) (e : IdentityError) :
    Onward id c allowed
      (s.enter c { call with phase := .ended (.error (.configuration e)) }) [] :=
  enter_onward hspan (.ended (.configuration e))

theorem decided_onward (hspan : call.span = some id) (m : Mediator) :
    Onward id c allowed (s.decided c call m) (routesOn id (s.decided c call m).effects) := by
  unfold decided
  generalize hfound : s.dispatcher.found m call.span = found
  obtain ⟨found, effects⟩ := found
  rw [hspan] at hfound
  have hentered : Onward id c allowed (s.enter c { call with phase := found })
      (routesOn id effects) :=
    enter_onward hspan (Dispatcher.found_fits hfound)
  simp only [routesOn_append, routesOn_enter, List.append_nil]
  exact hentered.reporting _ _

/-- A stretch of the look-up leaves the call undecided, or decides and records the route. -/
theorem lookedUp_onward {mid : Shared} {b : Action} {u : Transition} (hspan : call.span = some id)
    (hphase : call.phase = .consulting) (hu : mid.step c b = some u) :
    Onward id c (fun routes => b = .abandon ∧ routes = []) (s.lookedUp c call u)
      (routesOn id (s.lookedUp c call u).effects) := by
  have hundecided : call.phase.Fits [] := hphase ▸ .consulting
  obtain ⟨hquiet, -⟩ := Shared.step_quiet hu
  unfold lookedUp
  dsimp only
  rw [routesOn_append, hquiet.routesOn_eq_nil, List.nil_append]
  refine Onward.reporting ?_ _ _
  obtain ⟨_, _, m, -, -, hs⟩ | ⟨_, hout, hs⟩ | ⟨-, -, hs⟩ :=
    ({ s with shared := u.after } : Service α ε).settled_cases c call u.outcome
  · rw [hs]
    exact decided_onward hspan m
  · rw [hs, routesOn_leave]
    exact .givenUp (by simp) rfl ⟨Shared.step_abandoned hu hout, rfl⟩ rfl
  · rw [hs, routesOn_enter]
    exact enter_onward hspan hundecided

/-- The span of an accepted interception is new, and carries what the interception decides. -/
theorem intercept_onward {x : Interception α ε} (ht : s.step c (.intercept x) = some t)
    (hentered : (s.begun x).2.1.ticket.entered = true) :
    Onward s.shared.spans c (fun _ => False) t.progress
      (routesOn s.shared.spans t.progress.effects) := by
  obtain ⟨-, hadvances⟩ := step_spec ht
  generalize t.progress = p at hadvances ⊢
  cases hadvances with
  | intercept idle free hx =>
    obtain ⟨hphase, heffects⟩ := begun_of_entered hentered
    have hspan : (s.begun x).2.1.span = some s.shared.spans := by
      rw [span_begun, if_pos hentered]
    have hfits := s.dispatcher.start_fits s.shared.spans s.rules x.traffic x.resource x.substitute
    have hroutes : routesOn s.shared.spans (s.begun x).2.2 =
        routesOn s.shared.spans (s.dispatcher.start s.rules x.traffic x.resource x.substitute
          (some s.shared.spans)).2 := by
      rw [heffects]
      rfl
    rw [← hphase, ← hroutes] at hfits
    obtain ⟨p', hp', rfl⟩ := intercepts_of_intercept hx
    rw [routesOn_append]
    cases hp' with
    | decided hdecided =>
      rw [routesOn_enter, List.append_nil]
      exact (enter_onward hspan hfits).reporting _ _
    | refused hconsulting he =>
      rw [hconsulting] at hfits
      rw [hfits.of_consulting, routesOn_enter]
      exact (refused_onward hspan _).reporting _ _
    | looksUp hconsulting hq hu =>
      rw [hconsulting] at hfits
      rw [hfits.of_consulting, List.nil_append]
      exact ((lookedUp_onward hspan hconsulting hu).allowing (by simp)).reporting _ _

/-- A later step of the caller goes on from the routes that were recorded. -/
theorem own_onward (hcall : s.calls c = some call) (hspan : call.span = some id)
    (hfits : call.phase.Fits routes) (ht : s.step c a = some t) :
    Onward id c (fun routes => a.GoesAway ∧ call.phase.Fits routes) t.progress
      (routes ++ routesOn id t.progress.effects) := by
  obtain ⟨-, hadvances⟩ := step_spec ht
  generalize t.progress = p at hadvances ⊢
  have hkept {p : Progress α ε} (hcalls : p.service.calls = s.calls) (hstarted : p.started = none)
      (heffects : Quiet id p.effects) :
      Onward id c (fun routes => a.GoesAway ∧ call.phase.Fits routes) p
        (routes ++ routesOn id p.effects) := by
    rw [heffects.routesOn_eq_nil, List.append_nil]
    exact .underWay (by rw [hcalls, hcall]) hspan hfits (by simp [hstarted])
  cases hadvances with
  | intercept idle free hx =>
    rw [hcall] at idle
    cases idle
  | registry idle hu =>
    rw [hcall] at idle
    cases idle
  | lookUp here consulting hu =>
    rw [hcall] at here
    cases here
    rw [consulting] at hfits ⊢
    cases hfits
    refine (lookedUp_onward hspan consulting hu).allowing ?_
    rintro ⟨rfl, hnone⟩
    rw [hnone]
    exact ⟨.inr rfl, .consulting⟩
  | finish result here calling =>
    rw [hcall] at here
    cases here
    rw [routesOn_append, Dispatcher.routesOn_finish, routesOn_leave, List.append_nil,
      List.append_nil]
    rw [calling] at hfits
    exact .answered (by simp) rfl (Dispatcher.finish_told hfits result) rfl
  | abandon here calling =>
    rw [hcall] at here
    cases here
    rw [routesOn_leave, List.append_nil]
    exact .givenUp (by simp) rfl ⟨.inl rfl, hfits⟩ rfl
  | setEnabled enabled =>
    refine hkept rfl rfl ?_
    unfold Dispatcher.setEnabled
    dsimp only
    split <;> simp
  | setWhitelist resources =>
    exact hkept rfl rfl (by simp [Dispatcher.setWhitelist])
  | reload rules => exact hkept rfl rfl (by simp)

/-! ## Steps of others -/

theorem span?_of_step (ht : s.step c a = some t) : t.span? = s.span? c a := by
  obtain ⟨p, -, rfl⟩ := Option.map_eq_some_iff.mp ht
  rfl

/-- A step that is not about the call of a span records on it only the route of a nested attempt
that is skipped inside it. -/
theorem routesOn_other (ht : s.step c a = some t) (hspan : t.span? ≠ some id) {route : Route}
    (hroute : route ∈ routesOn id t.progress.effects) :
    route = .reentrant ∧ ∃ x, a = .intercept x ∧ x.around = some id ∧
      (s.begun x).2.1.ticket.entered = false := by
  rw [span?_of_step ht] at hspan
  obtain ⟨-, hadvances⟩ := step_spec ht
  generalize t.progress = p at hadvances hroute
  cases hadvances with
  | intercept idle free hx =>
    rename_i x
    -- all routes are those of the first effects, for the call is on another span
    have hfirst : routesOn id p.effects = routesOn id (s.begun x).2.2 := by
      obtain ⟨p', hp', rfl⟩ := intercepts_of_intercept hx
      have hothers : routesOn id p'.effects = [] := by
        cases hp' with
        | decided hdecided => exact routesOn_enter
        | refused hconsulting he => exact routesOn_enter
        | looksUp hconsulting hq hu =>
          rw [lookedUp, routesOn_append, (Shared.step_quiet hu).1.routesOn_eq_nil,
            routesOn_settled hspan]
          rfl
      rw [routesOn_append, hothers, List.append_nil]
    rw [hfirst] at hroute
    cases hentered : (s.begun x).2.1.ticket.entered with
    | true =>
      have hne : s.shared.spans ≠ id := by
        rintro rfl
        exact hspan (by rw [span?, span_begun, if_pos hentered])
      rw [(begun_of_entered hentered).2] at hroute
      have hnone := s.dispatcher.routesOn_start_ne s.rules x.traffic x.resource x.substitute hne
      rw [show routesOn id (.opened _ _ :: _) = _ from hnone] at hroute
      cases hroute
    | false =>
      rw [(begun_of_skipped hentered).2] at hroute
      by_cases haround : x.around = some id
      · rw [haround, Dispatcher.routesOn_routed, List.mem_singleton] at hroute
        exact ⟨hroute, x, rfl, haround, hentered⟩
      · rw [Dispatcher.routesOn_routed_ne haround] at hroute
        cases hroute
  | registry idle hu =>
    rw [(Shared.step_quiet hu).1.routesOn_eq_nil] at hroute
    cases hroute
  | @lookUp call b u here consulting hu =>
    have hspan : call.span ≠ some id := by simpa [span?, here] using hspan
    rw [lookedUp, routesOn_append, (Shared.step_quiet hu).1.routesOn_eq_nil,
      routesOn_settled hspan] at hroute
    cases hroute
  | finish result here calling =>
    simp [Dispatcher.routesOn_finish] at hroute
  | abandon here calling => simp at hroute
  | setEnabled enabled =>
    unfold Dispatcher.setEnabled at hroute
    dsimp only at hroute
    split at hroute <;> cases hroute
  | setWhitelist resources => cases hroute
  | reload rules => cases hroute

/-! ## Openings -/

/-- An interception opens one span if it is accepted, and none otherwise. -/
theorem openings_begun (x : Interception α ε) (id : SpanId) :
    openings id (s.begun x).2.2 =
      if (s.begun x).2.1.span = some id then [.dispatch x.boundary x.resource] else [] := by
  cases hentered : (s.begun x).2.1.ticket.entered with
  | true =>
    rw [span_begun, if_pos hentered, (begun_of_entered hentered).2]
    have hstart := s.dispatcher.openings_start id s.rules x.traffic x.resource x.substitute
      (some s.shared.spans)
    unfold openings at hstart ⊢
    by_cases hid : s.shared.spans = id
    · simp [hid, ← hstart]
    · simp [hid, ← hstart]
  | false =>
    rw [span_begun, (begun_of_skipped hentered).2, Dispatcher.openings_routed]
    simp [hentered]

/-- What an interception opens apart from its own span is new. -/
theorem openings_intercept {x : Interception α ε} {p : Progress α ε}
    (hx : s.intercept c x = some p) :
    s.shared.spans + 1 ≤ p.service.shared.spans ∧
      ∀ id, id < s.shared.spans + 1 ∨ p.service.shared.spans ≤ id →
        openings id p.effects = openings id (s.begun x).2.2 := by
  have hspans : (s.begun x).1.shared.spans = s.shared.spans + 1 := rfl
  obtain ⟨p', hp', rfl⟩ := intercepts_of_intercept hx
  simp only [openings_append]
  cases hp' with
  | decided hdecided => simp [hspans]
  | refused hconsulting he => simp [hspans]
  | looksUp hconsulting hq hu =>
    obtain ⟨hquiet, hafter⟩ := Shared.step_quiet hu
    rw [hspans] at hquiet hafter
    simp only [lookedUp, shared_settled, openings_append, openings_settled, List.append_nil,
      hafter]
    refine ⟨Nat.le_succ _, fun id hid => ?_⟩
    rw [hquiet.openings_of_outside hid, List.append_nil]

/-- A step opens only spans with numbers of its own. -/
theorem openings_step (ht : s.step c a = some t) :
    s.shared.spans ≤ t.progress.service.shared.spans ∧
      ∀ id, id < s.shared.spans ∨ t.progress.service.shared.spans ≤ id →
        openings id t.progress.effects = [] := by
  obtain ⟨-, hadvances⟩ := step_spec ht
  generalize t.progress = p at hadvances ⊢
  cases hadvances with
  | intercept idle free hx =>
    rename_i x
    obtain ⟨hspans, hopenings⟩ := openings_intercept hx
    refine ⟨Nat.le_of_succ_le hspans, fun id hid => ?_⟩
    rw [hopenings id (hid.imp_left Nat.lt_succ_of_lt), openings_begun, if_neg]
    rw [span_begun]
    split
    · rintro heq
      cases heq
      exact hid.elim (Nat.lt_irrefl _) fun h => Nat.not_succ_le_self _ (Nat.le_trans hspans h)
    · exact nofun
  | registry idle hu =>
    obtain ⟨hquiet, hspans⟩ := Shared.step_quiet hu
    dsimp only
    rw [hspans]
    exact ⟨Nat.le_succ _, fun id hid => hquiet.openings_of_outside hid⟩
  | lookUp here consulting hu =>
    obtain ⟨hquiet, hspans⟩ := Shared.step_quiet hu
    simp only [lookedUp, shared_settled, openings_append, openings_settled, List.append_nil, hspans]
    exact ⟨Nat.le_succ _, fun id hid => hquiet.openings_of_outside hid⟩
  | finish result here calling => simp [Dispatcher.openings_finish]
  | abandon here calling => simp
  | setEnabled enabled =>
    refine ⟨Nat.le_refl _, fun id _ => ?_⟩
    unfold Dispatcher.setEnabled
    dsimp only
    split <;> rfl
  | setWhitelist resources => exact ⟨Nat.le_refl _, fun id _ => rfl⟩
  | reload rules => exact ⟨Nat.le_refl _, fun id _ => rfl⟩

end Service

end ShadowTraffic
