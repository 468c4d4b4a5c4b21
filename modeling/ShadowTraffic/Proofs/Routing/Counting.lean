import ShadowTraffic.Proofs.Routing.Deciding
import ShadowTraffic.Proofs.Telemetry.Series

/-! # What the dispatch counters count

Before a call is decided it may be refused for its configuration or be given up, and nothing is
counted; afterwards it may fail or be given up, and its route stays counted. So the counters add up
to the calls that were decided on, in whatever way calls are nested and overlap.
-/

namespace ShadowTraffic

/-! ## Routes -/

def Route.all : List Route :=
  [.business, .fallback, .shadow, .rejected, .whitelisted, .mock, .reentrant]

namespace Metrics

/-- The sum over the series of some routes. -/
def dispatches (m : Metrics) : List Route → Nat
  | [] => 0
  | route :: rest => m.count (.dispatched route) + m.dispatches rest

theorem dispatches_all {m : Metrics} {routes : List Route}
    (h : ∀ route, m.count (.dispatched route) = routes.count route) :
    m.dispatches Route.all = routes.length := by
  simp only [Route.all, dispatches, h]
  clear h
  induction routes with
  | nil => rfl
  | cons route routes ih =>
    simp only [List.count_cons, List.length_cons]
    cases route <;> simp <;> omega

theorem dispatches_runs {m : Metrics} {routes : List Route}
    (h : ∀ route, m.count (.dispatched route) = routes.count route) :
    m.dispatches (Route.all.filter Route.runs) = routes.countP Route.runs := by
  have hruns : Route.all.filter Route.runs =
      [.business, .fallback, .shadow, .whitelisted, .reentrant] := rfl
  simp only [hruns, dispatches, h]
  clear h
  induction routes with
  | nil => rfl
  | cons route routes ih =>
    simp only [List.count_cons, List.countP_cons, Route.runs]
    cases route <;> simp <;> omega

/-- Each route that is counted adds one to its series. -/
theorem count_foldl (effects : List Effect) (m : Metrics) (route : Route) :
    (effects.foldl record m).count (.dispatched route) =
      m.count (.dispatched route) + (routesCounted effects).count route := by
  induction effects generalizing m with
  | nil => rfl
  | cons e effects ih =>
    rw [List.foldl_cons, ih]
    cases e with
    | counted c =>
      rw [count_counted]
      cases c with
      | dispatched other =>
        simp [routesCounted, List.count_cons]
        omega
      | _ => simp [routesCounted]
    | _ => rfl

end Metrics

/-! ## Courses -/

section

variable {α ε : Type}

def ServiceAction.isIntercept : ServiceAction α ε → Bool
  | .intercept _ => true
  | _ => false

namespace ServiceTransition

/-- Whether a step decides on a call: it starts the closure, or it gives an answer that does not
refuse the call for its configuration. -/
def decides (t : ServiceTransition α ε) : Bool :=
  t.progress.started.isSome ||
    match t.progress.returned with
    | none | some (.error (.configuration _)) => false
    | some _ => true

/-- Whether a step is an interception, or one whose caller has a call under way. -/
def isOfCall (t : ServiceTransition α ε) : Bool :=
  t.action.isIntercept || (t.before.calls t.caller).isSome

end ServiceTransition

namespace Service

/-- The steps of a call: those of its caller until the call is gone. -/
def course (c : CallerId) : List (ServiceTransition α ε) → List (ServiceTransition α ε)
  | [] => []
  | t :: ts =>
    if t.caller = c then
      t :: if (t.progress.service.calls c).isSome then course c ts else []
    else course c ts

/-- The intercepted calls of a run, each as its own steps from the interception on. -/
def courses : List (ServiceTransition α ε) → List (List (ServiceTransition α ε))
  | [] => []
  | t :: ts =>
    if t.action.isIntercept then course t.caller (t :: ts) :: courses ts else courses ts

/-- The routes that are counted over some steps. -/
def counted (ts : List (ServiceTransition α ε)) : List Route :=
  routesCounted (ts.flatMap fun t => t.progress.effects)

/-- The metrics as some steps leave them. -/
def metrics (ts : List (ServiceTransition α ε)) : Metrics :=
  (ts.flatMap fun t => t.progress.effects).foldl Metrics.record {}

/-- Where a call stands after a step of its own, and the routes that are counted up to there. -/
inductive Stands (t : ServiceTransition α ε) (routes : List Route) : Prop
  /-- It looks up its mediator, or its closure runs. -/
  | underWay {call : Call α ε} (here : t.progress.service.calls t.caller = some call)
      (charges : call.phase.Charges routes)
  | answered {answer : Except (DispatchError ε) (Dispatched α)}
      (gone : t.progress.service.calls t.caller = none)
      (returned : t.progress.returned = some answer) (charged : Charged answer routes)
  /-- Its caller went away, before the decision or while the closure ran. -/
  | givenUp {call : Call α ε} (before : t.before.calls t.caller = some call)
      (away : t.action.GoesAway) (gone : t.progress.service.calls t.caller = none)
      (unanswered : t.progress.returned = none) (charges : call.phase.Charges routes)

/-- What is counted for a call over its own steps: one route if it is decided and none otherwise;
that of the closure if one is started, and in any case one that the call can take. -/
structure Account (takes : Route → Prop) (ts : List (ServiceTransition α ε)) : Prop where
  stands : ∃ last, ts.getLast? = some last ∧ Stands last (counted ts)
  once : (counted ts).length = (ts.any ServiceTransition.decides).toNat
  started : ∀ t ∈ ts, ∀ call, t.progress.started = some call →
    ∃ route target mediator, call.phase = .calling route target mediator ∧ counted ts = [route]
  ran : ∀ route ∈ counted ts, route.runs = true → ∃ t ∈ ts, t.progress.started.isSome = true
  own : ∀ route ∈ counted ts, takes route

variable {s : Service α ε} {c : CallerId} {a : ServiceAction α ε}
  {t : ServiceTransition α ε} {ts : List (ServiceTransition α ε)} {call : Call α ε}
  {p : Progress α ε} {route : Route} {target : Target} {mediator : Option Identity}
  {takes : Route → Prop}

@[simp] theorem counted_nil : counted ([] : List (ServiceTransition α ε)) = [] := rfl

@[simp] theorem counted_cons (t : ServiceTransition α ε) (ts : List (ServiceTransition α ε)) :
    counted (t :: ts) = routesCounted t.progress.effects ++ counted ts := by
  simp [counted]

theorem course_cons_other (h : t.caller ≠ c) (ts : List (ServiceTransition α ε)) :
    course c (t :: ts) = course c ts := by
  rw [course, if_neg h]

theorem course_cons_open (h : t.caller = c) (hcall : t.progress.service.calls c = some call)
    (ts : List (ServiceTransition α ε)) : course c (t :: ts) = t :: course c ts := by
  simp [course, h, hcall]

theorem course_cons_gone (h : t.caller = c) (hgone : t.progress.service.calls c = none)
    (ts : List (ServiceTransition α ε)) : course c (t :: ts) = [t] := by
  simp [course, h, hgone]

/-! ## What is counted for one call -/

/-- A step that decides nothing comes before the others. -/
theorem Account.cons (h : Account takes ts) (hdoes : t.progress.Does [] none none) :
    Account takes (t :: ts) := by
  have hcounted : counted (t :: ts) = counted ts := by simp [hdoes.counted]
  have hdecides : t.decides = false := by
    simp [ServiceTransition.decides, hdoes.started, hdoes.returned]
  obtain ⟨last, hlast, hstands⟩ := h.stands
  refine ⟨⟨last, ?_, ?_⟩, ?_, ?_, ?_, ?_⟩
  · rw [List.getLast?_cons, hlast]
    rfl
  · rw [hcounted]
    exact hstands
  · rw [hcounted, List.any_cons, hdecides, Bool.false_or]
    exact h.once
  · intro u hu call hcall
    rw [hcounted]
    rcases List.mem_cons.mp hu with rfl | hu
    · rw [hdoes.started] at hcall
      cases hcall
    · exact h.started u hu call hcall
  · rw [hcounted]
    intro route hroute hruns
    obtain ⟨u, hu, hstarted⟩ := h.ran route hroute hruns
    exact ⟨u, List.mem_cons_of_mem t hu, hstarted⟩
  · rw [hcounted]
    exact h.own

/-- A single step that decides nothing. -/
theorem account_undecided (hdoes : t.progress.Does [] none none) (hstands : Stands t []) :
    Account takes [t] := by
  have hcounted : counted [t] = [] := by simp [hdoes.counted]
  constructor
  · exact ⟨t, rfl, by rw [hcounted]; exact hstands⟩
  · simp [hcounted, ServiceTransition.decides, hdoes.started, hdoes.returned]
  · simp [hdoes.started]
  · simp [hcounted]
  · simp [hcounted]

/-- The steps of a call while its closure runs count nothing more. -/
structure Unwinds (route : Route) (ts : List (ServiceTransition α ε)) : Prop where
  counted : counted ts = []
  unstarted : ∀ t ∈ ts, t.progress.started = none
  stands : ∀ last, ts.getLast? = some last → Stands last [route]

theorem Unwinds.cons (h : Unwinds route ts) (hcounted : routesCounted t.progress.effects = [])
    (hstarted : t.progress.started = none) (hstands : Stands t [route]) :
    Unwinds route (t :: ts) := by
  constructor
  · simp [hcounted, h.counted]
  · simpa [hstarted] using h.unstarted
  · intro last hlast
    rw [List.getLast?_cons] at hlast
    cases hend : ts.getLast? with
    | none =>
      rw [hend] at hlast
      cases hlast
      exact hstands
    | some u =>
      rw [hend] at hlast
      cases hlast
      exact h.stands u hend

theorem Unwinds.nil : Unwinds route ([] : List (ServiceTransition α ε)) := by
  constructor <;> simp

/-- A call whose closure has been started is decided. -/
theorem account_started (hhere : t.progress.service.calls t.caller = some call)
    (hcalling : call.phase = .calling route target mediator)
    (hcharges : call.phase.Charges [route]) (hdoes : t.progress.Does [route] (some call) none)
    (hrest : Unwinds route ts) (htakes : takes route) : Account takes (t :: ts) := by
  have hcounted : counted (t :: ts) = [route] := by simp [hdoes.counted, hrest.counted]
  have hdecides : t.decides = true := by simp [ServiceTransition.decides, hdoes.started]
  constructor
  · rw [hcounted, List.getLast?_cons]
    cases hend : ts.getLast? with
    | none => exact ⟨t, rfl, .underWay hhere hcharges⟩
    | some last => exact ⟨last, rfl, hrest.stands last hend⟩
  · simp [hcounted, hdecides]
  · intro u hu call' hcall'
    rw [hcounted]
    rcases List.mem_cons.mp hu with rfl | hu
    · rw [hdoes.started] at hcall'
      cases hcall'
      exact ⟨route, target, mediator, hcalling, rfl⟩
    · rw [hrest.unstarted u hu] at hcall'
      cases hcall'
  · intro _ _ _
    exact ⟨t, List.mem_cons_self, by simp [hdoes.started]⟩
  · simp [hcounted, htakes]

/-- A call that is answered without its closure. -/
theorem account_answered {routes : List Route} {answer : Except (DispatchError ε) (Dispatched α)}
    (hgone : t.progress.service.calls t.caller = none) (htold : Told answer routes)
    (hdoes : t.progress.Does routes none (some answer))
    (htakes : ∀ route ∈ routes, takes route) (hunrun : ∀ route ∈ routes, route.runs = false) :
    Account takes [t] := by
  have hcounted : counted [t] = routes := by simp [hdoes.counted]
  constructor
  · exact ⟨t, rfl, by rw [hcounted]; exact .answered hgone hdoes.returned (.told htold)⟩
  · rw [hcounted]
    simp only [List.any_cons, List.any_nil, ServiceTransition.decides, hdoes.started,
      hdoes.returned]
    cases htold <;> rfl
  · simp [hdoes.started]
  · intro route hroute hruns
    rw [hcounted] at hroute
    rw [hunrun route hroute] at hruns
    cases hruns
  · rw [hcounted]
    exact htakes

/-- The course of a call in a run goes by the steps of its caller; what others do leaves it alone. -/
theorem course_run {P : List (ServiceTransition α ε) → Prop} (hnil : P [])
    (hown : ∀ {s : Service α ε} {a : ServiceAction α ε} {t : ServiceTransition α ε}
      (schedule : List (CallerId × ServiceAction α ε)), s.calls c = some call →
      s.step c a = some t → (t.progress.service.calls c = some call →
        P (course c (t.progress.service.run schedule).transitions)) →
      P (course c (t :: (t.progress.service.run schedule).transitions)))
    (hcall : s.calls c = some call) (schedule : List (CallerId × ServiceAction α ε)) :
    P (course c (s.run schedule).transitions) := by
  induction schedule generalizing s with
  | nil => exact hnil
  | cons e schedule ih =>
    obtain ⟨d, a⟩ := e
    unfold Service.run at ih hown ⊢
    cases hstep : system.step s (d, a) with
    | none =>
      rw [System.run_cons_none hstep]
      exact ih hcall
    | some t =>
      rw [System.run_cons_some hstep]
      have ht : s.step d a = some t := hstep
      by_cases hd : d = c
      · subst hd
        exact hown schedule hcall ht ih
      · obtain ⟨-, hcaller, -, -⟩ := step_resolves ht
        have hne : t.caller ≠ c := by rw [hcaller]; exact hd
        have hafter : t.progress.service.calls c = some call := by
          rw [calls_step ht (Ne.symm hd), hcall]
        rw [course_cons_other hne]
        exact ih hafter

/-- While its closure runs, a call is left alone, ends or is given up. -/
theorem calling_course (hcall : s.calls c = some call)
    (hcalling : call.phase = .calling route target mediator)
    (hcharges : call.phase.Charges [route]) (schedule : List (CallerId × ServiceAction α ε)) :
    Unwinds route (course c (s.run schedule).transitions) := by
  refine course_run .nil (fun {s a t} schedule hcall ht ih => ?_) hcall schedule
  obtain ⟨rfl, rfl, haction, hresolves⟩ := step_resolves ht
  cases hresolves with
  | looksUp idle => rw [hcall] at idle; cases idle
  | starts idle => rw [hcall] at idle; cases idle
  | answers idle => rw [hcall] at idle; cases idle
  | finds m before consulting =>
    rw [hcall] at before
    cases before
    rw [hcalling] at consulting
    cases consulting
  | ends before calling gone does =>
    rw [hcall] at before
    cases before
    rw [hcalling] at calling hcharges
    cases calling
    rw [course_cons_gone rfl gone]
    exact Unwinds.nil.cons does.counted does.started
      (.answered gone does.returned (hcharges.finish _))
  | goesAway away before gone does =>
    rw [course_cons_gone rfl gone]
    exact Unwinds.nil.cons does.counted does.started
      (.givenUp hcall (haction ▸ away) gone does.returned hcharges)
  | goesOn other same does =>
    have hafter := same.trans hcall
    rw [course_cons_open rfl hafter]
    exact (ih hafter).cons does.counted does.started (.underWay hafter hcharges)

/-- A call that looks up its mediator has decided nothing, and is decided by a shadow or falls
back. -/
theorem consulting_course (hcall : s.calls c = some call) (hconsulting : call.phase = .consulting)
    (schedule : List (CallerId × ServiceAction α ε)) :
    course c (s.run schedule).transitions = [] ∨
      Account (fun route => route = .shadow ∨ route = .fallback)
        (course c (s.run schedule).transitions) := by
  have hcharges : call.phase.Charges [] := by rw [hconsulting]; exact .fits .consulting
  refine course_run (P := fun ts => ts = [] ∨ Account _ ts) (.inl rfl)
    (fun {s a t} schedule hcall ht ih => .inr ?_) hcall schedule
  obtain ⟨rfl, rfl, haction, hresolves⟩ := step_resolves ht
  cases hresolves with
  | looksUp idle => rw [hcall] at idle; cases idle
  | starts idle => rw [hcall] at idle; cases idle
  | answers idle => rw [hcall] at idle; cases idle
  | finds m before consulting here calling does =>
    rename_i call'
    have hfits : call'.phase.Charges [Dispatcher.targetRoute (Dispatcher.target m)] := by
      rw [calling]
      exact .fits (.found m)
    rw [course_cons_open rfl here]
    exact account_started here calling hfits does (calling_course here calling hfits schedule)
      (Dispatcher.targetRoute_eq _)
  | ends before calling =>
    rw [hcall] at before
    cases before
    rw [hconsulting] at calling
    cases calling
  | goesAway away before gone does =>
    rw [course_cons_gone rfl gone]
    exact account_undecided does (.givenUp hcall (haction ▸ away) gone does.returned hcharges)
  | goesOn other same does =>
    have hafter := same.trans hcall
    rw [course_cons_open rfl hafter]
    rcases ih hafter with hnone | hrest
    · rw [hnone]
      exact account_undecided does (.underWay hafter hcharges)
    · exact hrest.cons does

theorem Account.imp {takes' : Route → Prop} (h : Account takes ts)
    (himp : ∀ route, takes route → takes' route) : Account takes' ts where
  stands := h.stands
  once := h.once
  started := h.started
  ran := h.ran
  own route hroute := himp route (h.own route hroute)

/-- What is counted for an interception in the run that follows. -/
theorem account_intercept {x : Interception α ε} (ht : s.step c (.intercept x) = some t)
    (schedule : List (CallerId × ServiceAction α ε)) :
    Account (s.Takes x) (course c (t :: (t.progress.service.run schedule).transitions)) := by
  obtain ⟨rfl, rfl, haction, hresolves⟩ := step_resolves ht
  cases hresolves with
  | looksUp idle here consulting does own =>
    rw [course_cons_open rfl here]
    rcases consulting_course here consulting schedule with hnone | hrest
    · rw [hnone]
      exact account_undecided does (.underWay here (consulting ▸ .fits .consulting))
    · exact (hrest.cons does).imp own
  | starts idle here calling charges does own =>
    rw [course_cons_open rfl here]
    exact account_started here calling charges does (calling_course here calling charges schedule)
      own
  | answers idle gone told does own unrun =>
    rw [course_cons_gone rfl gone]
    exact account_answered gone told does own unrun
  | goesAway away => rcases away with away | away <;> cases away
  | goesOn other => exact absurd rfl (other x)

/-! ## Every step is of one call -/

theorem Resolves.idle (h : Resolves s c a p) (ha : a.isIntercept = true) : s.calls c = none := by
  cases h with
  | looksUp idle => exact idle
  | starts idle => exact idle
  | answers idle => exact idle
  | finds => cases ha
  | ends => cases ha
  | goesAway away => rcases away with rfl | rfl <;> cases ha
  | goesOn other =>
    cases a with
    | intercept x => exact absurd rfl (other x)
    | _ => cases ha

/-- What a caller without a call does otherwise decides nothing. -/
theorem Resolves.of_idle (h : Resolves s c a p) (hidle : s.calls c = none)
    (ha : a.isIntercept = false) : p.service.calls c = none ∧ p.Does [] none none := by
  cases h with
  | looksUp => cases ha
  | starts => cases ha
  | answers => cases ha
  | finds m before => rw [hidle] at before; cases before
  | ends before => rw [hidle] at before; cases before
  | goesAway away before => rw [hidle] at before; cases before
  | goesOn other same does => exact ⟨same.trans hidle, does⟩

/-- The steps of the calls that are under way at the start, each until it is gone. -/
def carried (live : CallerId → Bool) : List (ServiceTransition α ε) → List (ServiceTransition α ε)
  | [] => []
  | t :: ts =>
    if live t.caller then
      t :: carried (Function.update live t.caller (t.progress.service.calls t.caller).isSome) ts
    else carried live ts

theorem carried_none (ts : List (ServiceTransition α ε)) : carried (fun _ => false) ts = [] := by
  induction ts with
  | nil => rfl
  | cons t ts ih => simpa [carried] using ih

/-- One more call under way adds its own steps. -/
theorem carried_update {live : CallerId → Bool} (h : live c = false)
    (ts : List (ServiceTransition α ε)) :
    (carried (Function.update live c true) ts).Perm (course c ts ++ carried live ts) := by
  induction ts generalizing live with
  | nil => exact .nil
  | cons t ts ih =>
    by_cases hc : t.caller = c
    · have hskip : carried live (t :: ts) = carried live ts := by
        rw [carried, hc, h]
        rfl
      have htake : carried (Function.update live c true) (t :: ts) =
          t :: carried (Function.update live c (t.progress.service.calls c).isSome) ts := by
        rw [carried, hc, Function.update_self, Function.update_idem]
        rfl
      rw [hskip, htake]
      cases hcall : t.progress.service.calls c with
      | some call =>
        rw [course_cons_open hc hcall]
        exact (ih h).cons t
      | none =>
        have hlive : Function.update live c (none : Option (Call α ε)).isSome = live := by
          rw [Option.isSome_none, ← h, Function.update_eq_self]
        rw [course_cons_gone hc hcall, hlive]
        exact .refl _
    · rw [course_cons_other hc, carried, carried, Function.update_of_ne hc]
      by_cases hlive : live t.caller = true
      · rw [if_pos hlive, if_pos hlive, Function.update_comm (Ne.symm hc)]
        have hstill : Function.update live t.caller
            (t.progress.service.calls t.caller).isSome c = false := by
          rw [Function.update_of_ne (Ne.symm hc), h]
        exact ((ih hstill).cons t).trans List.perm_middle.symm
      · rw [if_neg hlive, if_neg hlive]
        exact ih h

/-- An interception begins a call. -/
theorem courses_cons_intercept {live : CallerId → Bool} (hintercept : t.action.isIntercept = true)
    (hidle : live t.caller = false)
    (hrest : (ts.filter ServiceTransition.isOfCall).Perm ((courses ts).flatten ++
      carried (Function.update live t.caller (t.progress.service.calls t.caller).isSome) ts)) :
    ((t :: ts).filter ServiceTransition.isOfCall).Perm
      ((courses (t :: ts)).flatten ++ carried live (t :: ts)) := by
  have hof : t.isOfCall = true := by simp [ServiceTransition.isOfCall, hintercept]
  have hskip : carried live (t :: ts) = carried live ts := by simp [carried, hidle]
  rw [List.filter_cons_of_pos hof, hskip, courses, if_pos hintercept]
  cases hcall : t.progress.service.calls t.caller with
  | some call =>
    -- what the rest carried on for the new call now follows its interception
    rw [hcall] at hrest
    have hmoved := hrest.trans ((carried_update hidle ts).append_left _)
    rw [course_cons_open rfl hcall, List.flatten_cons, List.append_assoc]
    exact (hmoved.trans (List.perm_append_comm_assoc ..)).cons t
  | none =>
    rw [hcall, Option.isSome_none, ← hidle, Function.update_eq_self] at hrest
    rw [course_cons_gone rfl hcall]
    exact hrest.cons t

/-- Any other step goes to the call that its caller has under way. -/
theorem courses_cons_other {live : CallerId → Bool}
    (h : Resolves t.before t.caller t.action t.progress)
    (hintercept : t.action.isIntercept = false)
    (hlive : live t.caller = (t.before.calls t.caller).isSome)
    (hrest : (ts.filter ServiceTransition.isOfCall).Perm ((courses ts).flatten ++
      carried (Function.update live t.caller (t.progress.service.calls t.caller).isSome) ts)) :
    ((t :: ts).filter ServiceTransition.isOfCall).Perm
      ((courses (t :: ts)).flatten ++ carried live (t :: ts)) := by
  rw [courses, if_neg (by simp [hintercept])]
  cases hbefore : t.before.calls t.caller with
  | some call =>
    have hof : t.isOfCall = true := by simp [ServiceTransition.isOfCall, hbefore]
    have hunder : live t.caller = true := by
      rw [hlive, hbefore]
      rfl
    rw [List.filter_cons_of_pos hof, carried, if_pos hunder]
    exact (hrest.cons t).trans List.perm_middle.symm
  | none =>
    have hof : ¬ t.isOfCall = true := by simp [ServiceTransition.isOfCall, hintercept, hbefore]
    have hidle : live t.caller = false := by
      rw [hlive, hbefore]
      rfl
    have hskip : carried live (t :: ts) = carried live ts := by simp [carried, hidle]
    have hgone := (h.of_idle hbefore hintercept).1
    rw [hgone, Option.isSome_none, ← hidle, Function.update_eq_self] at hrest
    rw [List.filter_cons_of_neg hof, hskip]
    exact hrest

/-- The steps that are of calls are those of the interceptions, each of one, and of the calls that
were under way before. -/
theorem courses_perm (s : Service α ε) (schedule : List (CallerId × ServiceAction α ε)) :
    ((s.run schedule).transitions.filter ServiceTransition.isOfCall).Perm
      ((courses (s.run schedule).transitions).flatten ++
        carried (fun c => (s.calls c).isSome) (s.run schedule).transitions) := by
  induction schedule generalizing s with
  | nil => exact .nil
  | cons e schedule ih =>
    obtain ⟨c, a⟩ := e
    unfold Service.run at ih ⊢
    cases hstep : system.step s (c, a) with
    | none =>
      rw [System.run_cons_none hstep]
      exact ih s
    | some t =>
      rw [System.run_cons_some hstep]
      have ht : s.step c a = some t := hstep
      obtain ⟨rfl, rfl, rfl, hresolves⟩ := step_resolves ht
      -- whose call is under way changes for the caller of the step alone
      have hlive : (fun d => (t.progress.service.calls d).isSome) =
          Function.update (fun d => (t.before.calls d).isSome) t.caller
            (t.progress.service.calls t.caller).isSome := by
        funext d
        by_cases hd : d = t.caller
        · rw [hd, Function.update_self]
        · rw [Function.update_of_ne hd, calls_step ht hd]
      have hrest := ih t.progress.service
      rw [hlive] at hrest
      cases hintercept : t.action.isIntercept with
      | true =>
        have hidle := hresolves.idle hintercept
        exact courses_cons_intercept hintercept (by rw [hidle]; rfl) hrest
      | false => exact courses_cons_other hresolves hintercept rfl hrest

/-! ## Totals -/

theorem resolves_of_mem {schedule : List (CallerId × ServiceAction α ε)}
    (ht : t ∈ (s.run schedule).transitions) : Resolves t.before t.caller t.action t.progress := by
  obtain ⟨first, ⟨c, a⟩, rest, -, hstep⟩ := System.run_mem ht
  obtain ⟨hbefore, hcaller, haction, hresolves⟩ := step_resolves hstep
  rw [hbefore, hcaller, haction]
  exact hresolves

theorem counted_append (first second : List (ServiceTransition α ε)) :
    counted (first ++ second) = counted first ++ counted second := by
  simp [counted]

theorem counted_flatten (L : List (List (ServiceTransition α ε))) :
    counted L.flatten = L.flatMap counted := by
  induction L with
  | nil => rfl
  | cons ts L ih => rw [List.flatten_cons, counted_append, ih, List.flatMap_cons]

theorem counted_perm {ts' : List (ServiceTransition α ε)} (h : ts.Perm ts') :
    (counted ts).Perm (counted ts') := by
  induction h with
  | nil => exact .nil
  | cons t _ ih =>
    rw [counted_cons, counted_cons]
    exact ih.append_left _
  | swap t u ts =>
    rw [counted_cons, counted_cons, counted_cons, counted_cons]
    exact List.perm_append_comm_assoc ..
  | trans _ _ first second => exact first.trans second

/-- A step that is of no call counts nothing. -/
theorem counted_filter (h : ∀ t ∈ ts, Resolves t.before t.caller t.action t.progress) :
    counted (ts.filter ServiceTransition.isOfCall) = counted ts := by
  induction ts with
  | nil => rfl
  | cons t ts ih =>
    have hrest := ih fun u hu => h u (List.mem_cons_of_mem t hu)
    cases hof : t.isOfCall with
    | true => rw [List.filter_cons_of_pos hof, counted_cons, counted_cons, hrest]
    | false =>
      rw [ServiceTransition.isOfCall, Bool.or_eq_false_iff, Option.isSome_eq_false_iff,
        Option.isNone_iff_eq_none] at hof
      have hnone := ((h t List.mem_cons_self).of_idle hof.2 hof.1).2.counted
      have hskip : ¬ t.isOfCall = true := by simp [ServiceTransition.isOfCall, hof]
      rw [List.filter_cons_of_neg hskip, counted_cons, hnone, hrest]
      rfl

/-- What is counted in a run is counted for its calls. -/
theorem counted_run (dispatcher : Dispatcher) (rules : Rules) (policy : Policy)
    (schedule : List (CallerId × ServiceAction α ε)) :
    (counted (run { dispatcher, rules, policy } schedule).transitions).Perm
      ((courses (run { dispatcher, rules, policy } schedule).transitions).flatMap counted) := by
  have hperm := courses_perm { dispatcher, rules, policy : Service α ε } schedule
  generalize hr : (run { dispatcher, rules, policy : Service α ε } schedule).transitions = ts
    at hperm ⊢
  have hresolves : ∀ t ∈ ts, Resolves t.before t.caller t.action t.progress := by
    rw [← hr]
    intro t ht
    exact resolves_of_mem ht
  have hnobody : carried (fun _ => false) ts = [] := carried_none ts
  have hcounted := counted_perm hperm
  rw [counted_filter hresolves] at hcounted
  simp only [Option.isSome_none, hnobody, List.append_nil, counted_flatten] at hcounted
  exact hcounted

/-- Each step starts as many closures as it counts routes that run them. -/
theorem Resolves.starts_runs (h : Resolves s c a p) :
    (routesCounted p.effects).countP Route.runs = p.started.isSome.toNat := by
  have hnothing (hdoes : p.Does [] none none) :
      (routesCounted p.effects).countP Route.runs = p.started.isSome.toNat := by
    rw [hdoes.counted, hdoes.started]
    rfl
  cases h with
  | looksUp idle here consulting does => exact hnothing does
  | starts idle here calling charges does =>
    rw [calling] at charges
    simp [does.counted, does.started, charges.of_calling.2]
  | answers idle gone told does own unrun =>
    rw [does.counted, does.started, List.countP_eq_zero.2 (by simpa using unrun)]
    rfl
  | finds m before consulting here calling does =>
    rw [does.counted, does.started]
    rcases Dispatcher.targetRoute_eq (Dispatcher.target m) with h | h <;> rw [h] <;> rfl
  | ends before calling gone does =>
    rw [does.counted, does.started]
    rfl
  | goesAway away before gone does => exact hnothing does
  | goesOn other same does => exact hnothing does

theorem countP_runs (h : ∀ t ∈ ts, Resolves t.before t.caller t.action t.progress) :
    (counted ts).countP Route.runs = ts.countP fun t => t.progress.started.isSome := by
  induction ts with
  | nil => rfl
  | cons t ts ih =>
    have hnow := (h t List.mem_cons_self).starts_runs
    have hrest := ih fun u hu => h u (List.mem_cons_of_mem t hu)
    rw [counted_cons, List.countP_append, hnow, hrest, List.countP_cons]
    cases t.progress.started <;> simp [Nat.add_comm]

/-- Accounts of one route at most add up to the number of those that have one. -/
theorem length_accounts {L : List (List (ServiceTransition α ε))}
    (h : ∀ ts ∈ L, (counted ts).length = (ts.any ServiceTransition.decides).toNat) :
    (L.flatMap counted).length = L.countP (·.any ServiceTransition.decides) := by
  induction L with
  | nil => rfl
  | cons ts L ih =>
    have hfirst := h ts List.mem_cons_self
    have hrest := ih fun us hus => h us (List.mem_cons_of_mem ts hus)
    rw [List.flatMap_cons, List.length_append, hfirst, hrest, List.countP_cons]
    cases ts.any ServiceTransition.decides <;> simp [Nat.add_comm]

theorem count_accounts {L : List (List (ServiceTransition α ε))}
    (h : ∀ ts ∈ L, (counted ts).length ≤ 1) (route : Route) :
    (L.flatMap counted).count route = L.countP (counted · == [route]) := by
  induction L with
  | nil => rfl
  | cons ts L ih =>
    have hfirst := h ts List.mem_cons_self
    have hrest := ih fun us hus => h us (List.mem_cons_of_mem ts hus)
    rw [List.flatMap_cons, List.count_append, hrest, List.countP_cons]
    rcases hcounted : counted ts with _ | ⟨first, _ | _⟩
    · simp
    · simp [List.count_singleton, Nat.add_comm]
    · simp [hcounted] at hfirst

theorem mem_courses {course' : List (ServiceTransition α ε)} (h : course' ∈ courses ts) :
    ∃ earlier t later x, ts = earlier ++ t :: later ∧ t.action = .intercept x ∧
      course' = course t.caller (t :: later) := by
  induction ts with
  | nil => cases h
  | cons t ts ih =>
    rw [courses] at h
    have hlater (h : course' ∈ courses ts) : ∃ earlier u later x, t :: ts = earlier ++ u :: later ∧
        u.action = .intercept x ∧ course' = course u.caller (u :: later) := by
      obtain ⟨earlier, u, later, x, hts, hx, hcourse⟩ := ih h
      exact ⟨t :: earlier, u, later, x, by rw [hts]; rfl, hx, hcourse⟩
    cases hintercept : t.action.isIntercept with
    | true =>
      rw [if_pos hintercept] at h
      rcases List.mem_cons.mp h with rfl | h
      · cases haction : t.action with
        | intercept x => exact ⟨[], t, ts, x, rfl, haction, rfl⟩
        | _ => rw [haction] at hintercept; cases hintercept
      · exact hlater h
    | false =>
      rw [if_neg (by simp [hintercept])] at h
      exact hlater h

/-! ## Every run -/

/-- What the dispatch counters of a run say. -/
structure DispatchesCounted (r : Run (Service α ε) (ServiceTransition α ε)) : Prop where
  /-- For every interception its own route is counted once, if it is decided. -/
  each : ∀ earlier t later x, r.transitions = earlier ++ t :: later → t.action = .intercept x →
    Account (t.before.Takes x) (course t.caller (t :: later))
  /-- A series is the number of calls that took its route. -/
  series : ∀ route, (metrics r.transitions).count (.dispatched route) =
    (courses r.transitions).countP (counted · == [route])
  /-- All series together are the number of calls that were decided. -/
  total : (metrics r.transitions).dispatches Route.all =
    (courses r.transitions).countP (·.any ServiceTransition.decides)
  closures : (metrics r.transitions).dispatches (Route.all.filter Route.runs) =
    r.transitions.countP fun t => t.progress.started.isSome

theorem count_metrics (ts : List (ServiceTransition α ε)) (route : Route) :
    (metrics ts).count (.dispatched route) = (counted ts).count route := by
  rw [metrics, Metrics.count_foldl]
  exact Nat.zero_add _

theorem account_run {schedule : List (CallerId × ServiceAction α ε)}
    {earlier later : List (ServiceTransition α ε)} {x : Interception α ε}
    (hsplit : (s.run schedule).transitions = earlier ++ t :: later) (hx : t.action = .intercept x) :
    Account (t.before.Takes x) (course t.caller (t :: later)) := by
  obtain ⟨first, ⟨c, a⟩, rest, -, -, hstep, hrest⟩ := System.run_split hsplit
  have ht : (system.run s first).final.step c a = some t := hstep
  obtain ⟨hbefore, hcaller, haction, -⟩ := step_resolves ht
  rw [← haction, hx] at ht
  have haccount := account_intercept ht rest
  have hlater : (t.progress.service.run rest).transitions = later := congrArg Run.transitions hrest
  rw [hlater] at haccount
  rw [hbefore, hcaller]
  exact haccount

/-- However calls are nested, overlap, fail and are given up, the dispatch counters account for
them: the route of a call is counted once if the call is decided, and nothing is if it is refused
for its configuration or given up before. So the counters add up to the calls that were decided, and
those of the routes that run closures to the closures that were started. -/
theorem dispatches_counted (dispatcher : Dispatcher) (rules : Rules) (policy : Policy)
    (schedule : List (CallerId × ServiceAction α ε)) :
    DispatchesCounted (run { dispatcher, rules, policy } schedule) := by
  have hperm := counted_run (α := α) (ε := ε) dispatcher rules policy schedule
  have honce : ∀ ts ∈ courses (run { dispatcher, rules, policy } schedule).transitions,
      (counted ts).length = (ts.any ServiceTransition.decides).toNat := by
    intro ts hts
    obtain ⟨earlier, t, later, x, hsplit, hx, rfl⟩ := mem_courses hts
    exact (account_run hsplit hx).once
  have hone : ∀ ts ∈ courses (run { dispatcher, rules, policy } schedule).transitions,
      (counted ts).length ≤ 1 := by
    intro ts hts
    rw [honce ts hts]
    exact Bool.toNat_le _
  have hresolves : ∀ t ∈ (run { dispatcher, rules, policy } schedule).transitions,
      Resolves t.before t.caller t.action t.progress := fun t ht => resolves_of_mem ht
  constructor
  · intro earlier t later x hsplit hx
    exact account_run hsplit hx
  · intro route
    rw [count_metrics, hperm.count_eq, count_accounts hone]
  · rw [Metrics.dispatches_all (count_metrics _), hperm.length_eq, length_accounts honce]
  · rw [Metrics.dispatches_runs (count_metrics _), countP_runs hresolves]

end Service

end

end ShadowTraffic
