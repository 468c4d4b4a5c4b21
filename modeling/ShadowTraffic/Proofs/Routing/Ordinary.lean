import ShadowTraffic.Proofs.Routing.Table
import ShadowTraffic.Proofs.Routing.Targets

/-! # Ordinary traffic is untouched

A call that the rules do not mark is started on its own business handle as soon as it is
intercepted, and ends when its closure ends. What it answers is read off the closure's result alone:
neither the switch nor the whitelist, neither substitute nor factory, neither the registry nor any
other call has a part in it.
-/

namespace ShadowTraffic

/-- The handle that the closure of a call runs on. -/
def Call.handle? {α ε : Type} (call : Call α ε) : Option Handle :=
  match call.phase with
  | .calling _ target _ =>
    some (Scenario.Machine.targetHandle call.interception.business target)
  | _ => none

namespace Service

variable {α ε : Type} {s s' : Service α ε} {c c' d : CallerId} {a : ServiceAction α ε}
  {t : ServiceTransition α ε} {call : Call α ε} {x x' : Interception α ε}

/-! ## Lives of calls -/

/-- A caller that is free intercepts a call that is not test traffic. -/
structure Ordinary (s : Service α ε) (c : CallerId) (x : Interception α ε) : Prop where
  idle : s.calls c = none
  free : s.shared.ongoing c = none
  unmarked : (s.rules.detect x.traffic x.resource).marked = false

/-- Whether an event is the end of a caller's closure, or its caller's going away. -/
def EndsClosure (c : CallerId) (e : CallerId × ServiceAction α ε) : Prop :=
  e.1 = c ∧ (e.2 = .abandon ∨ ∃ result, e.2 = .finish result)

/-- A call from its interception to the end of its closure, and what happens meanwhile. -/
def life (c : CallerId) (x : Interception α ε) (meanwhile : List (CallerId × ServiceAction α ε))
    (result : Except ε α) : List (CallerId × ServiceAction α ε) :=
  (c, .intercept x) :: (meanwhile ++ [(c, .finish result)])

/-- The calls whose closures a caller starts. -/
def startedBy (c : CallerId) (ts : List (ServiceTransition α ε)) : List (Call α ε) :=
  ts.filterMap fun t => if t.caller = c then t.progress.started else none

/-- The answers that a caller is given. -/
def returnedTo (c : CallerId) (ts : List (ServiceTransition α ε)) :
    List (Except (DispatchError ε) (Dispatched α)) :=
  ts.filterMap fun t => if t.caller = c then t.progress.returned else none

/-- A step takes no stretch on the registry and leaves every slot as it is. -/
def OffRegistry (t : ServiceTransition α ε) : Prop :=
  t.progress.stretch = none ∧
    t.progress.service.shared.registry = t.before.shared.registry

/-! ## The interception -/

/-- Ordinary traffic starts on the business handle, and the guard alone decides how that is
called. -/
theorem phase_begun (h : (s.rules.detect x.traffic x.resource).marked = false) :
    ∃ route, (route = .business ∨ route = .reentrant) ∧
      (s.begun x).2.1.phase = .calling route .business none := by
  have hmediate : (s.begun x).2.1.phase =
      (s.dispatcher.mediate s.rules x.traffic x.boundary x.resource x.substitute
        (s.begun x).2.1.ticket.entered x.around s.shared.spans).1 := rfl
  rw [hmediate, Dispatcher.mediate]
  cases (s.begun x).2.1.ticket.entered with
  | false => exact ⟨.reentrant, .inr rfl, rfl⟩
  | true =>
    refine ⟨.business, .inl rfl, ?_⟩
    simp [Dispatcher.start, Dispatcher.judge, h]

/-- No substitute is looked at for ordinary traffic. -/
theorem begun_with_substitute (h : (s.rules.detect x.traffic x.resource).marked = false)
    (other : Option (Substitute α ε)) :
    s.begun { x with substitute := other } =
      ((s.begun x).1, { (s.begun x).2.1 with interception := { x with substitute := other } },
        (s.begun x).2.2) := by
  unfold begun
  dsimp only
  cases ((s.scopes x.stack).enter x.boundary (x.policy.getD s.policy)).1.entered with
  | false => rfl
  | true => simp [Dispatcher.mediate, Dispatcher.start, Dispatcher.judge, h]

theorem Ordinary.with_substitute (h : s.Ordinary c x) (other : Option (Substitute α ε)) :
    s.Ordinary c { x with substitute := other } :=
  ⟨h.idle, h.free, h.unmarked⟩

/-- The interception starts the closure, and does nothing else to be seen by others. -/
theorem Ordinary.step (h : s.Ordinary c x) :
    s.step c (.intercept x) = some {
      before := s
      caller := c
      action := .intercept x
      progress := {
        service := { (s.begun x).1 with
          calls := Function.update s.calls c (some (s.begun x).2.1) }
        started := some (s.begun x).2.1
        effects := (s.begun x).2.2 } } := by
  obtain ⟨route, -, hphase⟩ := phase_begun h.unmarked
  have hintercept := intercept_of_calling (c := c) hphase
  simp only [Service.step, progress?, h.idle, h.free, hintercept, Option.map_some]

/-! ## While the closure runs -/

/-- A step at which a caller starts nothing, is given nothing and leaves the registry alone. -/
structure Uninvolved (c : CallerId) (t : ServiceTransition α ε) : Prop where
  started : t.caller = c → t.progress.started = none
  returned : t.caller = c → t.progress.returned = none
  offRegistry : t.caller = c → OffRegistry t

theorem caller_step (ht : s.step c a = some t) : t.caller = c := by
  obtain ⟨p, -, rfl⟩ := Option.map_eq_some_iff.mp ht
  rfl

/-- As long as its closure runs, a call stays as it is and its caller can do nothing but flip
switches. -/
theorem calling_step {route : Route} {target : Target} {mediator : Option Identity}
    (hcall : s.calls c = some call) (hphase : call.phase = .calling route target mediator)
    (ht : s.step d a = some t) (hends : ¬ EndsClosure c (d, a)) :
    t.progress.service.calls c = some call ∧ Uninvolved c t := by
  by_cases hdc : d = c
  · subst hdc
    obtain ⟨hbefore, hadvances⟩ := step_spec ht
    have huninvolved (hstarted : t.progress.started = none) (hreturned : t.progress.returned = none)
        (hstretch : t.progress.stretch = none)
        (hshared : t.progress.service.shared = s.shared) : Uninvolved d t :=
      ⟨fun _ => hstarted, fun _ => hreturned, fun _ => ⟨hstretch, by rw [hshared, hbefore]⟩⟩
    generalize t.progress = p at hadvances huninvolved ⊢
    cases hadvances with
    | intercept idle free hx =>
      rw [hcall] at idle
      cases idle
    | registry idle hu =>
      rw [hcall] at idle
      cases idle
    | lookUp here consulting hu =>
      rw [hcall] at here
      cases here
      rw [hphase] at consulting
      cases consulting
    | finish result here calling => exact absurd ⟨rfl, .inr ⟨result, rfl⟩⟩ hends
    | abandon here calling => exact absurd ⟨rfl, .inl rfl⟩ hends
    | setEnabled enabled => exact ⟨hcall, huninvolved rfl rfl rfl rfl⟩
    | setWhitelist resources => exact ⟨hcall, huninvolved rfl rfl rfl rfl⟩
    | reload rules => exact ⟨hcall, huninvolved rfl rfl rfl rfl⟩
  · have hne : t.caller ≠ c := by rwa [caller_step ht]
    rw [calls_step ht (Ne.symm hdc)]
    exact ⟨hcall, fun h => absurd h hne, fun h => absurd h hne, fun h => absurd h hne⟩

/-- So it is over any schedule that does not end the closure. -/
theorem calling_run {schedule : List (CallerId × ServiceAction α ε)} {route : Route}
    {target : Target} {mediator : Option Identity} (hcall : s.calls c = some call)
    (hphase : call.phase = .calling route target mediator)
    (hends : ∀ e ∈ schedule, ¬ EndsClosure c e) :
    (s.run schedule).final.calls c = some call ∧
      ∀ t ∈ (s.run schedule).transitions, Uninvolved c t := by
  induction schedule generalizing s with
  | nil => exact ⟨hcall, by simp [run, System.run]⟩
  | cons e schedule ih =>
    have hhead := hends e List.mem_cons_self
    have htail := fun e' he' => hends e' (List.mem_cons_of_mem _ he')
    unfold run at ih ⊢
    cases hstep : system.step s e with
    | none =>
      rw [System.run_cons_none hstep]
      exact ih hcall htail
    | some t =>
      rw [System.run_cons_some hstep]
      obtain ⟨hkept, huninvolved⟩ := calling_step hcall hphase hstep hhead
      obtain ⟨hfinal, hrest⟩ := ih hkept htail
      refine ⟨hfinal, fun u hu => ?_⟩
      rcases List.mem_cons.mp hu with rfl | hu
      · exact huninvolved
      · exact hrest u hu

theorem startedBy_of_uninvolved {ts : List (ServiceTransition α ε)}
    (h : ∀ t ∈ ts, Uninvolved c t) : startedBy c ts = [] := by
  rw [startedBy, List.filterMap_eq_nil_iff]
  intro t ht
  split
  next hc => exact (h t ht).started hc
  next => rfl

theorem returnedTo_of_uninvolved {ts : List (ServiceTransition α ε)}
    (h : ∀ t ∈ ts, Uninvolved c t) : returnedTo c ts = [] := by
  rw [returnedTo, List.filterMap_eq_nil_iff]
  intro t ht
  split
  next hc => exact (h t ht).returned hc
  next => rfl

/-! ## The end of the closure -/

theorem finish_business (route : Route) (result : Except ε α) :
    (Dispatcher.finish route .business none result).1 =
      Dispatcher.delivered route .business result := by
  cases result <;> rfl

theorem finish_step {route : Route} (hcall : s.calls c = some call)
    (hphase : call.phase = .calling route .business none) (result : Except ε α) :
    ∃ t, s.step c (.finish result) = some t ∧ t.caller = c ∧ t.progress.started = none ∧
      t.progress.returned = some (Dispatcher.delivered route .business result) ∧ OffRegistry t := by
  simp only [Service.step, progress?, hcall, hphase, Option.map_some]
  exact ⟨_, rfl, rfl, rfl, by rw [finish_business], rfl, rfl⟩

/-! ## Whole lives -/

/-- What a caller's own steps come to over the life of a call of ordinary traffic. -/
structure Untouched (s : Service α ε) (c : CallerId) (x : Interception α ε)
    (ts : List (ServiceTransition α ε)) (result : Except ε α) : Prop where
  /-- The closure starts once, on the handle that came with the call, and the one answer is its
  result. -/
  once : ∃ call route, startedBy c ts = [call] ∧ call.interception = x ∧
    call.phase = .calling route .business none ∧ call.handle? = some x.business ∧
    (route = .business ∨ route = .reentrant) ∧
    returnedTo c ts = [Dispatcher.delivered route .business result]
  /-- No factory builds for it, and no slot is opened, removed or closed. -/
  offRegistry : ∀ t ∈ ts, t.caller = c → OffRegistry t
  /-- The interception is the same with another substitute. -/
  substitute : ∀ other : Option (Substitute α ε), ∃ t u,
    s.step c (.intercept x) = some t ∧
      s.step c (.intercept { x with substitute := other }) = some u ∧
      u.progress.effects = t.progress.effects ∧
      u.progress.started = t.progress.started.map
        ({ · with interception := { x with substitute := other } })

theorem Ordinary.untouched (h : s.Ordinary c x)
    {meanwhile : List (CallerId × ServiceAction α ε)}
    (hends : ∀ e ∈ meanwhile, ¬ EndsClosure c e) (result : Except ε α) :
    Untouched s c x (s.run (life c x meanwhile result)).transitions result := by
  obtain ⟨route, hroute, hphase⟩ := phase_begun h.unmarked
  -- three parts of the life: the interception, what happens meanwhile, and the end
  have hstep := h.step
  generalize ht : ServiceTransition.mk s c (.intercept x) _ = t at hstep
  have hcaller : t.caller = c := by rw [← ht]
  have hstarted : t.progress.started = some (s.begun x).2.1 := by rw [← ht]
  have hreturned : t.progress.returned = none := by rw [← ht]
  have hoff : OffRegistry t := by
    rw [← ht]
    exact ⟨rfl, rfl⟩
  have hcall : t.progress.service.calls c = some (s.begun x).2.1 := by
    rw [← ht]
    exact Function.update_self ..
  obtain ⟨hkept, huninvolved⟩ := calling_run hcall hphase hends
  obtain ⟨u, hfinish, hucaller, hustarted, hureturned, huoff⟩ := finish_step hkept hphase result
  have hlife : (s.run (life c x meanwhile result)).transitions =
      t :: ((t.progress.service.run meanwhile).transitions ++ [u]) := by
    have hend : system.step (system.run (system.after t) meanwhile).final (c, .finish result) =
        some u := hfinish
    rw [run, life, System.run_cons_some (t := t) hstep, System.run_append,
      System.run_cons_some hend]
    rfl
  rw [hlife]
  constructor
  · refine ⟨(s.begun x).2.1, route, ?_, rfl, hphase, ?_, hroute, ?_⟩
    · have hmiddle := startedBy_of_uninvolved huninvolved
      unfold startedBy at hmiddle ⊢
      rw [List.filterMap_cons, List.filterMap_append, hmiddle]
      simp [hcaller, hstarted, hucaller, hustarted]
    · rw [Call.handle?, hphase]
      rfl
    · have hmiddle := returnedTo_of_uninvolved huninvolved
      unfold returnedTo at hmiddle ⊢
      rw [List.filterMap_cons, List.filterMap_append, hmiddle]
      simp [hcaller, hreturned, hucaller, hureturned]
  · intro v hv hvc
    rcases List.mem_cons.mp hv with rfl | hv
    · exact hoff
    · rcases List.mem_append.mp hv with hv | hv
      · exact (huninvolved v hv).offRegistry hvc
      · rw [List.mem_singleton.mp hv]
        exact huoff
  · intro other
    refine ⟨t, _, hstep, (h.with_substitute other).step, ?_, ?_⟩
    · rw [begun_with_substitute h.unmarked, ← ht]
    · rw [begun_with_substitute h.unmarked, hstarted]
      rfl

/-- The value or error in an answer. -/
def outcome : Except (DispatchError ε) (Dispatched α) → Except (DispatchError ε) α
  | .ok answer => .ok answer.value
  | .error e => .error e

theorem outcome_delivered (route : Route) (result : Except ε α) :
    outcome (Dispatcher.delivered route .business result) = result.mapError .business := by
  cases result <;> rfl

/-- In any state, and whatever others do until its closure ends, a call of ordinary traffic is
untouched. In two runs that have nothing but the closure's result in common it has the same value
or error. -/
theorem ordinary_untouched {meanwhile meanwhile' : List (CallerId × ServiceAction α ε)}
    (h : s.Ordinary c x) (hends : ∀ e ∈ meanwhile, ¬ EndsClosure c e)
    (h' : s'.Ordinary c' x') (hends' : ∀ e ∈ meanwhile', ¬ EndsClosure c' e)
    (result : Except ε α) :
    Untouched s c x (s.run (life c x meanwhile result)).transitions result ∧
      (returnedTo c (s.run (life c x meanwhile result)).transitions).map outcome =
        (returnedTo c' (s'.run (life c' x' meanwhile' result)).transitions).map outcome := by
  have huntouched := h.untouched hends result
  obtain ⟨call, route, -, -, -, -, -, hanswer⟩ := huntouched.once
  obtain ⟨call', route', -, -, -, -, -, hanswer'⟩ := (h'.untouched hends' result).once
  refine ⟨huntouched, ?_⟩
  rw [hanswer, hanswer', List.map_singleton, List.map_singleton, outcome_delivered,
    outcome_delivered]

/-- A call beside test traffic on the same boundary, inside which another one is made, while the
switch is turned off and the registry released. -/
def beside : List (CallerId × ServiceAction String String) :=
  let ask (traffic : TrafficContext) : ServiceAction String String := .intercept {
    stack := 0, boundary := "a", config := { endpoint := some "a" }, business := "x", traffic }
  [(1, ask { entries := Dictionary.empty.insert "m" "1" }), (3, ask {}), (0, .setEnabled false),
    (2, .registry .release), (1, .registry (.built (.ok (some "s")))),
    (3, .finish (.error "nested"))]

theorem ordinary_untouched_beside :
    let x : Interception String String :=
      { stack := 0, boundary := "a", config := { endpoint := some "a" }, business := "x" }
    let quiet := { marking with dispatcher := { marking.dispatcher with enabled := false } }
    Untouched marking 0 x (marking.run (life 0 x beside (.ok "v"))).transitions (.ok "v") ∧
      (returnedTo 0 (marking.run (life 0 x beside (.ok "v"))).transitions).map outcome =
        (returnedTo 0 (quiet.run (life 0 x [] (.ok "v"))).transitions).map outcome := by
  intro x quiet
  have hends : ∀ e ∈ beside, ¬ EndsClosure 0 e := by
    simp [beside, EndsClosure]
  exact ordinary_untouched ⟨rfl, rfl, rfl⟩ hends ⟨rfl, rfl, rfl⟩ (by simp) (.ok "v")

end Service

end ShadowTraffic
