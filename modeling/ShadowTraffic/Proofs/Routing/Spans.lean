import ShadowTraffic.Proofs.Routing.Recording

/-! # The routes on dispatch spans

An intercepted call that the guard accepts is dispatched inside a span of its own. The steps of
the call itself record at most one route on that span, the one that the call takes. But a nested
attempt is skipped before it has a span, and its route goes to the span that its caller is in; so
the span of a call carries a further route for each nested attempt made directly inside it.
-/

namespace ShadowTraffic

namespace Service

variable {α ε : Type} {s : Service α ε} {c d : CallerId} {a : ServiceAction α ε}
  {t : ServiceTransition α ε} {call : Call α ε} {id : SpanId} {p : Progress α ε}
  {routes : List Route} {allowed : List Route → Prop}

/-! ## Runs -/

/-- The routes that a call's own steps record on its span. -/
def ownRoutes (id : SpanId) (ts : List (ServiceTransition α ε)) : List Route :=
  ts.flatMap fun t => if t.span? = some id then routesOn id t.progress.effects else []

/-- What a span is opened for over some steps, each time that it is. -/
def openedFor (id : SpanId) (ts : List (ServiceTransition α ε)) : List Span :=
  ts.flatMap fun t => openings id t.progress.effects

/-- Where the call of a dispatch span stands at the end of a run, and the routes that fit. -/
inductive Reached (id : SpanId) (r : Run (Service α ε) (ServiceTransition α ε))
    (routes : List Route) : Prop
  /-- It looks up its mediator, or its closure runs. -/
  | underWay {c : CallerId} {call : Call α ε} (here : r.final.calls c = some call)
      (span : call.span = some id) (fits : call.phase.Fits routes)
  | answered {t : ServiceTransition α ε} {answer : Except (DispatchError ε) (Dispatched α)}
      (mem : t ∈ r.transitions) (own : t.span? = some id)
      (returned : t.progress.returned = some answer) (told : Told answer routes)
  /-- Its caller went away, before the decision or while the closure ran. -/
  | givenUp {t : ServiceTransition α ε} {call : Call α ε} (mem : t ∈ r.transitions)
      (own : t.span? = some id) (here : t.before.calls t.caller = some call)
      (away : t.action.GoesAway) (gone : t.progress.service.calls t.caller = none)
      (unanswered : t.progress.returned = none) (fits : call.phase.Fits routes)

/-- The routes on a dispatch span are those of its call: of what the call has come to, and of any
closure that it has started. -/
structure Traced (id : SpanId) (r : Run (Service α ε) (ServiceTransition α ε))
    (routes : List Route) : Prop where
  reached : Reached id r routes
  started : ∀ t ∈ r.transitions, t.span? = some id → ∀ call, t.progress.started = some call →
    ∃ route target mediator, call.phase = .calling route target mediator ∧ routes = [route]

theorem Reached.length_le {r : Run (Service α ε) (ServiceTransition α ε)}
    (h : Reached id r routes) : routes.length ≤ 1 := by
  cases h with
  | underWay here span fits => exact fits.length_le
  | answered mem own returned told => exact told.length_le
  | givenUp mem own here away gone unanswered fits => exact fits.length_le

/-! ## Whose span it is -/

theorem span_settled {call' : Call α ε} {o : Outcome}
    (h : (s.settled c call o).service.calls c = some call') : call'.span = call.span := by
  obtain ⟨_, _, m, -, -, hs⟩ | ⟨_, -, hs⟩ | ⟨-, -, hs⟩ := s.settled_cases c call o
  · obtain rfl := calls_decided_self (hs ▸ h)
    rfl
  · simp [hs] at h
  · rw [hs] at h
    rw [calls_enter_self h]

/-- The call of a caller after its step is the one that the step is about. -/
theorem span?_eq_of_calls (ht : s.step c a = some t)
    (hcall : t.progress.service.calls c = some call) : t.span? = call.span := by
  rw [span?_of_step ht]
  obtain ⟨-, hadvances⟩ := step_spec ht
  generalize t.progress = p at hadvances hcall
  cases hadvances with
  | intercept idle free hx =>
    obtain ⟨p', hp', rfl⟩ := intercepts_of_intercept hx
    rw [span?]
    cases hp' with
    | decided hdecided => rw [calls_enter_self hcall]
    | refused hconsulting he => rw [calls_enter_self hcall]
    | looksUp hconsulting hq hu => exact (span_settled hcall).symm
  | registry idle hu =>
    rw [show s.calls c = some call from hcall] at idle
    cases idle
  | @lookUp before b u here consulting hu =>
    have hbefore : s.span? c (.registry b) = before.span := by simp [span?, here]
    rw [hbefore, span_settled hcall]
  | finish result here calling => simp at hcall
  | abandon here calling => simp at hcall
  | setEnabled enabled => simp [span?, show s.calls c = some call from hcall]
  | setWhitelist resources => simp [span?, show s.calls c = some call from hcall]
  | reload rules => simp [span?, show s.calls c = some call from hcall]

/-- Calls have spans that were given. -/
def Numbered (s : Service α ε) : Prop :=
  ∀ {c call id}, s.calls c = some call → call.span = some id → id < s.shared.spans

theorem Numbered.span?_lt (h : s.Numbered) (ht : s.step c a = some t) (hspan : t.span? = some id) :
    id < t.progress.service.shared.spans := by
  rw [span?_of_step ht] at hspan
  have hgrows := (openings_step ht).1
  have hbefore (hcalls : (s.calls c).bind (·.span) = some id) :
      id < t.progress.service.shared.spans := by
    obtain ⟨call, hcall, hid⟩ := Option.bind_eq_some_iff.mp hcalls
    exact Nat.lt_of_lt_of_le (h hcall hid) hgrows
  cases a with
  | intercept x =>
    obtain ⟨-, hadvances⟩ := step_spec ht
    generalize t.progress = p at hadvances ⊢
    cases hadvances with
    | intercept idle free hx =>
      rw [span?, span_begun] at hspan
      split at hspan
      · cases hspan
        exact (openings_intercept hx).1
      · cases hspan
  | _ => exact hbefore hspan

theorem Numbered.step (h : s.Numbered) (ht : s.step c a = some t) :
    t.progress.service.Numbered := by
  intro d call id hcall hspan
  by_cases hdc : d = c
  · subst hdc
    exact h.span?_lt ht ((span?_eq_of_calls ht hcall).trans hspan)
  · rw [calls_step ht hdc] at hcall
    exact Nat.lt_of_lt_of_le (h hcall hspan) (openings_step ht).1

/-- Nobody's call has this dispatch span, and nobody's will. -/
structure Over (s : Service α ε) (id : SpanId) : Prop where
  below : id < s.shared.spans
  nobody : ∀ {c call}, s.calls c = some call → call.span ≠ some id

/-- One caller's call has this dispatch span. -/
structure Held (s : Service α ε) (id : SpanId) (c : CallerId) (call : Call α ε) : Prop where
  below : id < s.shared.spans
  here : s.calls c = some call
  span : call.span = some id
  alone : ∀ {d call'}, d ≠ c → s.calls d = some call' → call'.span ≠ some id

/-- A span that was given before is that of a step only if it is that of its caller's call. -/
theorem span?_ne (hbelow : id < s.shared.spans)
    (hcalls : ∀ {call}, s.calls c = some call → call.span ≠ some id)
    (ht : s.step c a = some t) : t.span? ≠ some id := by
  rw [span?_of_step ht]
  intro hspan
  have hbefore (h : (s.calls c).bind (·.span) = some id) : False := by
    obtain ⟨call, hcall, hid⟩ := Option.bind_eq_some_iff.mp h
    exact hcalls hcall hid
  cases a with
  | intercept x =>
    rw [span?, span_begun] at hspan
    split at hspan
    · cases hspan
      exact Nat.lt_irrefl _ hbelow
    · cases hspan
  | _ => exact hbefore hspan

theorem Over.step (h : s.Over id) (ht : s.step c a = some t) :
    t.span? ≠ some id ∧ t.progress.service.Over id := by
  have hother := span?_ne h.below h.nobody ht
  refine ⟨hother, Nat.lt_of_lt_of_le h.below (openings_step ht).1, fun {d call} hcall => ?_⟩
  by_cases hdc : d = c
  · subst hdc
    rwa [← span?_eq_of_calls ht hcall]
  · rw [calls_step ht hdc] at hcall
    exact h.nobody hcall

theorem Over.run (h : s.Over id) (schedule : List (CallerId × ServiceAction α ε)) :
    ∀ t ∈ (s.run schedule).transitions, t.span? ≠ some id := by
  induction schedule generalizing s with
  | nil => simp [Service.run, System.run]
  | cons e schedule ih =>
    unfold Service.run at ih ⊢
    cases hstep : system.step s e with
    | none =>
      rw [System.run_cons_none hstep]
      exact ih h
    | some t =>
      rw [System.run_cons_some hstep]
      obtain ⟨hother, hafter⟩ := h.step hstep
      simp only [List.mem_cons, forall_eq_or_imp]
      exact ⟨hother, ih hafter⟩

theorem ownRoutes_append (id : SpanId) (first second : List (ServiceTransition α ε)) :
    ownRoutes id (first ++ second) = ownRoutes id first ++ ownRoutes id second :=
  List.flatMap_append

theorem ownRoutes_of_others {ts : List (ServiceTransition α ε)}
    (h : ∀ t ∈ ts, t.span? ≠ some id) : ownRoutes id ts = [] := by
  rw [ownRoutes, List.flatMap_eq_nil_iff]
  intro t ht
  rw [if_neg (h t ht)]

/-- Others' steps leave a call with its span. -/
theorem Held.step_other (h : s.Held id c call) (hdc : d ≠ c) (ht : s.step d a = some t) :
    t.span? ≠ some id ∧ t.progress.service.Held id c call := by
  have hother := span?_ne h.below (h.alone hdc) ht
  refine ⟨hother, Nat.lt_of_lt_of_le h.below (openings_step ht).1, ?_, h.span,
    fun {e call'} hne hcall' => ?_⟩
  · rw [calls_step ht hdc.symm]
    exact h.here
  · by_cases hed : e = d
    · subst hed
      rwa [← span?_eq_of_calls ht hcall']
    · rw [calls_step ht hed] at hcall'
      exact h.alone hne hcall'

/-- After a step of its caller a call still has its span, or nobody has it. -/
theorem held_or_over (hbelow : id < t.progress.service.shared.spans)
    (halone : ∀ {d call'}, d ≠ c → s.calls d = some call' → call'.span ≠ some id)
    (ht : s.step c a = some t) :
    (∀ {call'}, t.progress.service.calls c = some call' → call'.span = some id →
        t.progress.service.Held id c call') ∧
      (t.progress.service.calls c = none → t.progress.service.Over id) := by
  have hothers {d call'} (hdc : d ≠ c) (hcall' : t.progress.service.calls d = some call') :
      call'.span ≠ some id := by
    rw [calls_step ht hdc] at hcall'
    exact halone hdc hcall'
  refine ⟨fun hcall' hspan => ⟨hbelow, hcall', hspan, hothers⟩, fun hgone => ⟨hbelow, ?_⟩⟩
  intro d call' hcall'
  by_cases hdc : d = c
  · rw [hdc, hgone] at hcall'
    cases hcall'
  · exact hothers hdc hcall'

theorem Reached.later {final : Service α ε} {ts : List (ServiceTransition α ε)}
    (h : Reached id ⟨final, ts⟩ routes) (earlier : List (ServiceTransition α ε)) :
    Reached id ⟨final, earlier ++ ts⟩ routes := by
  cases h with
  | underWay here span fits => exact .underWay here span fits
  | answered mem own returned told =>
    exact .answered (List.mem_append_right _ mem) own returned told
  | givenUp mem own here away gone unanswered fits =>
    exact .givenUp (List.mem_append_right _ mem) own here away gone unanswered fits

theorem Traced.later {final : Service α ε} {earlier ts : List (ServiceTransition α ε)}
    (h : Traced id ⟨final, ts⟩ routes) (hothers : ∀ t ∈ earlier, t.span? ≠ some id) :
    Traced id ⟨final, earlier ++ ts⟩ routes where
  reached := h.reached.later earlier
  started := by
    intro t ht hspan
    rcases List.mem_append.mp ht with ht | ht
    · exact absurd hspan (hothers t ht)
    · exact h.started t ht hspan

theorem ownRoutes_cons (hspan : t.span? = some id) (ts : List (ServiceTransition α ε)) :
    ownRoutes id (t :: ts) = routesOn id t.progress.effects ++ ownRoutes id ts := by
  rw [ownRoutes, List.flatMap_cons, if_pos hspan]
  rfl

/-- After a step about a span, the run that follows decides what the span carries in the end. -/
theorem Onward.traced (h : Onward id c allowed t.progress routes) (ht : s.step c a = some t)
    (hspan : t.span? = some id) (hbelow : id < t.progress.service.shared.spans)
    (halone : ∀ {d call'}, d ≠ c → s.calls d = some call' → call'.span ≠ some id)
    (hallowed : allowed routes → ∃ call, s.calls c = some call ∧ a.GoesAway ∧
      call.phase.Fits routes)
    {schedule : List (CallerId × ServiceAction α ε)}
    (hrest : ∀ {call}, t.progress.service.Held id c call → call.phase.Fits routes →
      Traced id (t.progress.service.run schedule)
        (routes ++ ownRoutes id (t.progress.service.run schedule).transitions)) :
    Traced id ⟨(t.progress.service.run schedule).final,
        t :: (t.progress.service.run schedule).transitions⟩
      (routes ++ ownRoutes id (t.progress.service.run schedule).transitions) := by
  obtain ⟨hheld, hover⟩ := held_or_over hbelow halone ht
  -- once nobody has the span, no later step is about it
  have hquiet (hgone : t.progress.service.calls c = none) :
      (∀ u ∈ (t.progress.service.run schedule).transitions, u.span? ≠ some id) ∧
        routes ++ ownRoutes id (t.progress.service.run schedule).transitions = routes := by
    have hothers := (hover hgone).run schedule
    exact ⟨hothers, by rw [ownRoutes_of_others hothers, List.append_nil]⟩
  have hstarts (hgone : t.progress.service.calls c = none) (hnone : t.progress.started = none) :
      ∀ u ∈ t :: (t.progress.service.run schedule).transitions, u.span? = some id →
        ∀ call, u.progress.started = some call →
          ∃ route target mediator, call.phase = .calling route target mediator ∧
            routes = [route] := by
    intro u hu hown call hcall
    rcases List.mem_cons.mp hu with rfl | hu
    · rw [hnone] at hcall
      cases hcall
    · exact absurd hown ((hquiet hgone).1 u hu)
  cases h with
  | underWay here span fits started =>
    have hlater := hrest (hheld here span) fits
    refine ⟨hlater.reached.later [t], fun u hu hown call hcall => ?_⟩
    rcases List.mem_cons.mp hu with rfl | hu
    · obtain ⟨rfl, route, target, mediator, hphase⟩ := started call hcall
      -- the closure's route is there already, so there is no room for another one
      have hlength := hlater.reached.length_le
      rw [hphase] at fits
      rw [fits.of_calling] at hlength ⊢
      exact ⟨route, target, mediator, hphase, by simpa using hlength⟩
    · exact hlater.started u hu hown call hcall
  | answered gone returned told started =>
    rw [(hquiet gone).2]
    exact ⟨.answered List.mem_cons_self hspan returned told, hstarts gone started⟩
  | givenUp gone unanswered hgiven started =>
    obtain ⟨call, hcall, haway, hfits⟩ := hallowed hgiven
    obtain ⟨p, -, rfl⟩ := Option.map_eq_some_iff.mp ht
    rw [(hquiet gone).2]
    exact ⟨.givenUp List.mem_cons_self hspan hcall haway gone unanswered hfits,
      hstarts gone started⟩

/-- A step of its caller is about the call that has the span. -/
theorem Held.span?_own (h : s.Held id c call) (ht : s.step c a = some t) : t.span? = some id := by
  rw [span?_of_step ht]
  cases a with
  | intercept x =>
    obtain ⟨-, hadvances⟩ := step_spec ht
    cases hadvances with
    | intercept idle free hx =>
      rw [h.here] at idle
      cases idle
  | _ => simp [span?, h.here, h.span]

/-- The call of a span is traced to the end of any run. -/
theorem Held.traced (h : s.Held id c call) (hfits : call.phase.Fits routes)
    (schedule : List (CallerId × ServiceAction α ε)) :
    Traced id (s.run schedule) (routes ++ ownRoutes id (s.run schedule).transitions) := by
  induction schedule generalizing s call routes with
  | nil =>
    refine ⟨.underWay h.here h.span ?_, by simp [Service.run, System.run]⟩
    simpa [Service.run, System.run, ownRoutes] using hfits
  | cons e schedule ih =>
    obtain ⟨d, a⟩ := e
    unfold Service.run at ih ⊢
    cases hstep : system.step s (d, a) with
    | none =>
      rw [System.run_cons_none hstep]
      exact ih h hfits
    | some t =>
      rw [System.run_cons_some hstep]
      by_cases hdc : d = c
      · subst hdc
        have hspan := h.span?_own hstep
        rw [ownRoutes_cons hspan, ← List.append_assoc]
        have honward := own_onward h.here h.span hfits hstep
        refine honward.traced hstep hspan ?_ h.alone ?_ ?_
        · exact Nat.lt_of_lt_of_le h.below (openings_step hstep).1
        · exact fun hallowed => ⟨call, h.here, hallowed⟩
        · exact fun hheld hfits' => ih hheld hfits'
      · obtain ⟨hother, hheld⟩ := h.step_other hdc hstep
        have hothers : ∀ u ∈ [t], u.span? ≠ some id := by simpa using hother
        rw [← List.singleton_append, ownRoutes_append, ownRoutes_of_others hothers,
          List.nil_append]
        exact (ih hheld hfits).later hothers

/-! ## Before and after -/

/-- What a run opens has numbers of its own. -/
theorem openedFor_run (s : Service α ε) (schedule : List (CallerId × ServiceAction α ε)) :
    s.shared.spans ≤ (s.run schedule).final.shared.spans ∧
      ∀ id, id < s.shared.spans ∨ (s.run schedule).final.shared.spans ≤ id →
        openedFor id (s.run schedule).transitions = [] := by
  induction schedule generalizing s with
  | nil => exact ⟨Nat.le_refl _, fun id _ => rfl⟩
  | cons e schedule ih =>
    unfold Service.run at ih ⊢
    cases hstep : system.step s e with
    | none =>
      rw [System.run_cons_none hstep]
      exact ih s
    | some t =>
      rw [System.run_cons_some hstep]
      obtain ⟨hgrows, hopens⟩ := openings_step hstep
      obtain ⟨hrest, hopened⟩ := ih (system.after t)
      refine ⟨Nat.le_trans hgrows hrest, fun id hid => ?_⟩
      have hnow := hopens id (hid.imp_right (Nat.le_trans hrest))
      have hlater := hopened id (hid.imp_left fun h => Nat.lt_of_lt_of_le h hgrows)
      rw [openedFor] at hlater ⊢
      rw [List.flatMap_cons, hnow, hlater]
      rfl

/-- The steps of a run are about spans that are given by its end. -/
theorem Numbered.run (h : s.Numbered) (schedule : List (CallerId × ServiceAction α ε)) :
    (s.run schedule).final.Numbered ∧ ∀ t ∈ (s.run schedule).transitions, ∀ id,
      t.span? = some id → id < (s.run schedule).final.shared.spans := by
  induction schedule generalizing s with
  | nil => exact ⟨h, by simp [Service.run, System.run]⟩
  | cons e schedule ih =>
    unfold Service.run at ih ⊢
    cases hstep : system.step s e with
    | none =>
      rw [System.run_cons_none hstep]
      exact ih h
    | some t =>
      rw [System.run_cons_some hstep]
      obtain ⟨hfinal, hlater⟩ := ih (h.step hstep)
      refine ⟨hfinal, fun u hu id hspan => ?_⟩
      rcases List.mem_cons.mp hu with rfl | hu
      · exact Nat.lt_of_lt_of_le (h.span?_lt hstep hspan) (openedFor_run _ schedule).1
      · exact hlater u hu id hspan

/-- The span of an accepted interception is traced from the interception on. -/
theorem Numbered.traced_intercept (h : s.Numbered) {x : Interception α ε}
    (ht : s.step c (.intercept x) = some t) (hentered : (s.begun x).2.1.ticket.entered = true)
    (schedule : List (CallerId × ServiceAction α ε)) :
    Traced s.shared.spans ⟨(t.progress.service.run schedule).final,
        t :: (t.progress.service.run schedule).transitions⟩
      (ownRoutes s.shared.spans (t :: (t.progress.service.run schedule).transitions)) := by
  have hspan : t.span? = some s.shared.spans := by
    rw [span?_of_step ht, span?, span_begun, if_pos hentered]
  rw [ownRoutes_cons hspan]
  refine (intercept_onward ht hentered).traced ht hspan (h.span?_lt ht hspan) ?_
    False.elim ?_
  · intro d call hdc hcall hid
    exact Nat.lt_irrefl _ (h hcall hid)
  · exact fun hheld hfits => hheld.traced hfits schedule

theorem openings_accepted {x : Interception α ε} (ht : s.step c (.intercept x) = some t)
    (hentered : (s.begun x).2.1.ticket.entered = true) :
    openings s.shared.spans t.progress.effects = [.dispatch x.boundary x.resource] := by
  obtain ⟨-, hadvances⟩ := step_spec ht
  generalize t.progress = p at hadvances ⊢
  cases hadvances with
  | intercept idle free hx =>
    rw [(openings_intercept hx).2 _ (.inl (Nat.lt_succ_self _)), openings_begun, span_begun,
      if_pos hentered, if_pos rfl]

/-- Every dispatch span is opened once, for the interception that was accepted with it. The
routes that the steps of that call record on it are traced to the end of the run: there is at most
one, that of the closure or of the answer, and none if the call is refused for its configuration
or given up before it is decided. Any further route on the span is that of a nested attempt, made
directly inside it and skipped. -/
theorem dispatch_span_routes (dispatcher : Dispatcher) (rules : Rules) (policy : Policy)
    (schedule : List (CallerId × ServiceAction α ε)) {x : Interception α ε}
    (ht : t ∈ (run { dispatcher, rules, policy } schedule).transitions)
    (hx : t.action = .intercept x) (hspan : t.span? = some id) :
    let r := run { dispatcher, rules, policy } schedule
    openedFor id r.transitions = [.dispatch x.boundary x.resource] ∧
      Traced id r (ownRoutes id r.transitions) ∧ (ownRoutes id r.transitions).length ≤ 1 ∧
      ∀ u ∈ r.transitions, u.span? ≠ some id → ∀ route ∈ routesOn id u.progress.effects,
        route = .reentrant ∧ ∃ y, u.action = .intercept y ∧ y.around = some id ∧
          (u.before.begun y).2.1.ticket.entered = false := by
  intro r
  have hfresh : Numbered { dispatcher, rules, policy : Service α ε } := by
    intro c call i hcall
    cases hcall
  obtain ⟨earlier, later, hsplit⟩ := List.append_of_mem ht
  obtain ⟨first, ⟨c, a⟩, rest, -, hearlier, hstep, hrest⟩ := System.run_split hsplit
  have hcut : r = ⟨r.final, earlier ++ t :: later⟩ := by
    rw [← hsplit]
  -- the interception, from where the steps before it lead
  obtain ⟨hnumbered, hbefore⟩ := hfresh.run first
  obtain ⟨-, hopened⟩ := openedFor_run { dispatcher, rules, policy : Service α ε } first
  unfold Service.run at hnumbered hbefore hopened
  generalize hmid : (system.run { dispatcher, rules, policy } first).final = s at *
  rw [hearlier] at hbefore hopened
  have ha : a = .intercept x := by
    rw [← hx]
    obtain ⟨p, -, rfl⟩ := Option.map_eq_some_iff.mp hstep
    rfl
  subst ha
  have hown := hspan
  rw [span?_of_step hstep, span?, span_begun] at hspan
  split at hspan
  next hentered =>
    cases hspan
    have hothers : ∀ u ∈ earlier, u.span? ≠ some s.shared.spans :=
      fun u hu hown => Nat.lt_irrefl _ (hbefore u hu _ hown)
    have hrest' : t.progress.service.run rest = ⟨r.final, later⟩ := hrest
    obtain ⟨-, hlater⟩ := openedFor_run t.progress.service rest
    have htraced := hnumbered.traced_intercept hstep hentered rest
    rw [hrest'] at hlater htraced
    have htransitions : r.transitions = earlier ++ t :: later := by rw [hcut]
    have hroutes : ownRoutes s.shared.spans r.transitions =
        ownRoutes s.shared.spans (t :: later) := by
      rw [htransitions, ownRoutes_append, ownRoutes_of_others hothers, List.nil_append]
    have hopenings : openedFor s.shared.spans r.transitions =
        [.dispatch x.boundary x.resource] := by
      have hnow := openings_accepted hstep hentered
      have hnever := hopened s.shared.spans (.inr (Nat.le_refl _))
      have hagain := hlater s.shared.spans (.inl (hnumbered.span?_lt hstep hown))
      unfold openedFor at hnever hagain ⊢
      rw [htransitions, List.flatMap_append, List.flatMap_cons, hnever, hnow, hagain]
      rfl
    have hfinally : Traced s.shared.spans r (ownRoutes s.shared.spans r.transitions) := by
      rw [hroutes, hcut]
      exact htraced.later hothers
    refine ⟨hopenings, hfinally, hfinally.reached.length_le, fun u hu hother route hroute => ?_⟩
    obtain ⟨first, ⟨d, b⟩, rest, -, hu⟩ := System.run_mem hu
    obtain ⟨hreentrant, y, rfl, haround, hskipped⟩ := routesOn_other hu hother hroute
    obtain ⟨p, -, rfl⟩ := Option.map_eq_some_iff.mp hu
    exact ⟨hreentrant, y, rfl, haround, hskipped⟩
  next => cases hspan

/-- A test call that fails on its shadow, and inside its closure another one on its boundary. -/
def nested : List (CallerId × ServiceAction String String) :=
  let ask (around : Option SpanId) : ServiceAction String String := .intercept {
    stack := 0
    boundary := "a"
    config := { endpoint := some "a" }
    business := "x"
    traffic := { entries := Dictionary.empty.insert "m" "1" }
    around }
  [(0, ask none), (0, .registry (.built (.ok (some "s")))), (1, ask (some 0)),
    (1, .finish (.ok "inner")), (0, .finish (.error "outer"))]

theorem dispatch_span_routes_nested :
    let r := run marking nested
    ∃ t ∈ r.transitions, ∃ x, t.action = .intercept x ∧ t.span? = some 0 ∧
      openedFor 0 r.transitions = [.dispatch x.boundary x.resource] ∧
      Traced 0 r (ownRoutes 0 r.transitions) ∧ (ownRoutes 0 r.transitions).length ≤ 1 ∧
      ∀ u ∈ r.transitions, u.span? ≠ some 0 → ∀ route ∈ routesOn 0 u.progress.effects,
        route = .reentrant ∧ ∃ y, u.action = .intercept y ∧ y.around = some 0 ∧
          (u.before.begun y).2.1.ticket.entered = false := by
  intro r
  have hfirst : ∃ t ∈ r.transitions, ∃ x, t.action = .intercept x ∧ t.span? = some 0 :=
    ⟨_, List.mem_cons_self, _, rfl, rfl⟩
  obtain ⟨t, ht, x, hx, hspan⟩ := hfirst
  exact ⟨t, ht, x, hx, hspan, dispatch_span_routes _ _ _ nested ht hx hspan⟩

/-- A dispatch span carries two routes: that of its own call, which ran on a shadow, and that of the
nested attempt. -/
theorem span_records_nested_route :
    let ts := (run marking nested).transitions
    openedFor 0 ts = [.dispatch "a" none] ∧ ownRoutes 0 ts = [.shadow] ∧
      ts.flatMap (fun t => routesOn 0 t.progress.effects) = [.shadow, .reentrant] :=
  ⟨rfl, rfl, rfl⟩

end Service

end ShadowTraffic
