import Mathlib.Data.List.Induction
import ShadowTraffic.Proofs.Routing.Targets

/-! # The switch between judgment and start

The switch is read when a call is intercepted. A call that then has to look up its mediator may be
suspended for any time, and the switch may be flipped meanwhile; nobody reads it again. So a closure
of test traffic starts only for a call that was judged while the switch was on, and at its start
the switch stands as the last change since then has left it.
-/

namespace ShadowTraffic

namespace ServiceAction

variable {α ε : Type}

/-- What an action sets the switch to, if it does. -/
def setting? : ServiceAction α ε → Option Bool
  | setEnabled enabled => some enabled
  | _ => none

end ServiceAction

/-! ## Judgment -/

namespace Dispatcher

variable {α ε : Type} {d : Dispatcher} {rules : Rules} {t : TrafficContext}
  {resource : Option String} {substitute : Option (Substitute α ε)} {span : Option SpanId}

/-- Only test traffic gets past the first phase without being refused, and only while the switch
is on. -/
theorem start_past_switch {phase : DispatchPhase α ε}
    (h : (d.start rules t resource substitute span).1 = phase)
    (hphase : phase = .consulting ∨
      ∃ target mediator, phase = .calling .whitelisted target mediator) :
    (rules.detect t resource).marked = true ∧ d.enabled = true := by
  subst h
  unfold start judge at hphase
  cases hmarked : (rules.detect t resource).marked with
  | false => simp [hmarked] at hphase
  | true =>
    cases henabled : d.enabled with
    | false => simp [hmarked, henabled] at hphase
    | true => exact ⟨rfl, rfl⟩

end Dispatcher

namespace Service

variable {α ε : Type} {s : Service α ε} {c d : CallerId} {a : ServiceAction α ε}
  {t : ServiceTransition α ε} {call : Call α ε}

/-- A call that the guard accepted, marked by the rules, and judged with the switch on. -/
structure Judged (s : Service α ε) (call : Call α ε) : Prop where
  accepted : call.ticket.entered = true
  marked : (s.rules.detect call.interception.traffic call.interception.resource).marked = true
  on : s.dispatcher.enabled = true

theorem Judged.in_phase (h : s.Judged call) (phase : DispatchPhase α ε) :
    s.Judged { call with phase } :=
  ⟨h.accepted, h.marked, h.on⟩

/-- An interception that looks up, or starts on a whitelisted resource, is judged so. -/
theorem judged_begun {x : Interception α ε}
    (hphase : (s.begun x).2.1.phase = .consulting ∨
      ∃ target mediator, (s.begun x).2.1.phase = .calling .whitelisted target mediator) :
    s.Judged (s.begun x).2.1 := by
  have hmediate : (s.begun x).2.1.phase =
      (s.dispatcher.mediate s.rules x.traffic x.boundary x.resource x.substitute
        (s.begun x).2.1.ticket.entered x.around s.shared.spans).1 := rfl
  rw [hmediate] at hphase
  unfold Dispatcher.mediate at hphase
  cases hentered : (s.begun x).2.1.ticket.entered with
  | false => simp [hentered] at hphase
  | true =>
    rw [hentered] at hphase
    obtain ⟨hmarked, hon⟩ := Dispatcher.start_past_switch rfl hphase
    exact ⟨hentered, hmarked, hon⟩

/-! ## The switch over a run -/

/-- Where a schedule leaves the switch. -/
def switched (on : Bool) (schedule : List (CallerId × ServiceAction α ε)) : Bool :=
  schedule.foldl (fun on e => e.2.setting?.getD on) on

theorem switched_append (on : Bool) (first second : List (CallerId × ServiceAction α ε)) :
    switched on (first ++ second) = switched (switched on first) second :=
  List.foldl_append

theorem enabled_step (ht : s.step c a = some t) :
    t.progress.service.dispatcher.enabled = a.setting?.getD s.dispatcher.enabled := by
  obtain ⟨-, hadvances⟩ := step_spec ht
  generalize t.progress = p at hadvances ⊢
  cases hadvances with
  | intercept idle free hx =>
    rcases intercept_cases hx with ⟨call, -, -, -, -, hservice, -⟩ | ⟨q, u, -, -, -, -, hservice, -⟩
    · rw [hservice, dispatcher_enter, dispatcher_begun]
      rfl
    · rw [hservice, lookedUp, dispatcher_settled]
      rfl
  | registry idle hu => rfl
  | lookUp here consulting hu =>
    rw [lookedUp, dispatcher_settled]
    rfl
  | finish result here calling => rfl
  | abandon here calling => rfl
  | setEnabled enabled => rfl
  | setWhitelist resources => rfl
  | reload rules => rfl

/-- Setting the switch always fits. -/
theorem setting?_of_not_step (h : s.step c a = none) : a.setting? = none := by
  cases a with
  | setEnabled enabled => cases h
  | _ => rfl

theorem enabled_run (s : Service α ε) (schedule : List (CallerId × ServiceAction α ε)) :
    (s.run schedule).final.dispatcher.enabled = switched s.dispatcher.enabled schedule := by
  induction schedule generalizing s with
  | nil => rfl
  | cons e schedule ih =>
    unfold run switched at ih ⊢
    rw [List.foldl_cons]
    cases hstep : system.step s e with
    | none =>
      rw [System.run_cons_none hstep, ih, setting?_of_not_step hstep]
      rfl
    | some t =>
      rw [System.run_cons_some hstep, ← enabled_step hstep]
      exact ih _

/-! ## Calls under way -/

/-- A call that looks up after a step was looking up before, or has been intercepted by it. -/
theorem consulting_step (ht : s.step c a = some t)
    (hcall : t.progress.service.calls d = some call) (hphase : call.phase = .consulting) :
    s.calls d = some call ∨ d = c ∧ a = .intercept call.interception ∧ s.Judged call := by
  by_cases hdc : d = c
  · subst hdc
    obtain ⟨-, hadvances⟩ := step_spec ht
    generalize t.progress = p at hadvances hcall
    cases hadvances with
    | intercept idle free hx =>
      rename_i x
      rcases intercept_cases hx with ⟨call', -, hne, -, -, hservice, -⟩ |
        ⟨q, u, -, hconsulting, -, -, hservice, -⟩
      · rw [hservice] at hcall
        rw [calls_enter_self hcall] at hphase
        exact absurd hphase hne
      · rw [hservice] at hcall
        obtain ⟨rfl, -, -⟩ := calls_settled_self hcall hphase
        exact .inr ⟨rfl, rfl, judged_begun (.inl hconsulting)⟩
    | registry idle hu =>
      rw [show s.calls d = some call from hcall] at idle
      cases idle
    | lookUp here consulting hu =>
      obtain ⟨rfl, -, -⟩ := calls_settled_self hcall hphase
      exact .inl here
    | finish result here calling => simp at hcall
    | abandon here calling => simp at hcall
    | setEnabled enabled => exact .inl hcall
    | setWhitelist resources => exact .inl hcall
    | reload rules => exact .inl hcall
  · rw [calls_step ht hdc] at hcall
    exact .inl hcall

/-- A call that looks up has been intercepted somewhere in the run, and was judged there. -/
theorem consulting_since {schedule : List (CallerId × ServiceAction α ε)}
    (hidle : s.calls c = none) (hcall : (s.run schedule).final.calls c = some call)
    (hphase : call.phase = .consulting) :
    ∃ first rest, schedule = first ++ (c, .intercept call.interception) :: rest ∧
      (s.run first).final.Judged call := by
  induction schedule using List.reverseRecOn with
  | nil =>
    rw [show s.calls c = some call from hcall] at hidle
    cases hidle
  | append_singleton schedule e ih =>
    obtain ⟨d, b⟩ := e
    rw [run, System.run_append] at hcall
    cases hstep : system.step (system.run s schedule).final (d, b) with
    | none =>
      rw [System.run_cons_none hstep] at hcall
      obtain ⟨first, rest, rfl, hjudged⟩ := ih hcall
      exact ⟨first, rest ++ [(d, b)], by simp, hjudged⟩
    | some u =>
      rw [System.run_cons_some hstep] at hcall
      rcases consulting_step hstep hcall hphase with hbefore | ⟨rfl, rfl, hjudged⟩
      · obtain ⟨first, rest, rfl, hjudged⟩ := ih hbefore
        exact ⟨first, rest ++ [(d, b)], by simp, hjudged⟩
      · exact ⟨schedule, [], rfl, hjudged⟩

/-- The call of a closure that a step starts is intercepted by it, or was looking up. -/
theorem started_step (ht : s.step c a = some t) (hstarted : t.progress.started = some call) :
    (∃ x, a = .intercept x ∧ (call = (s.begun x).2.1 ∨ (s.begun x).2.1.phase = .consulting ∧
        ∃ phase, call = { (s.begun x).2.1 with phase })) ∨
      ∃ call' phase, s.calls c = some call' ∧ call'.phase = .consulting ∧
        call = { call' with phase } := by
  obtain ⟨-, hadvances⟩ := step_spec ht
  generalize t.progress = p at hadvances hstarted
  cases hadvances with
  | intercept idle free hx => exact .inl ⟨_, rfl, started_intercept hx hstarted⟩
  | lookUp here consulting hu =>
    obtain ⟨phase, rfl⟩ := started_settled_eq hstarted
    exact .inr ⟨_, phase, here, consulting, rfl⟩
  | registry idle hu => cases hstarted
  | finish result here calling => simp at hstarted
  | abandon here calling => simp at hstarted
  | setEnabled enabled => cases hstarted
  | setWhitelist resources => cases hstarted
  | reload rules => cases hstarted

/-- A closure of test traffic starts only for a call that the guard accepted and that was judged
while the switch was on. At its start the switch is on exactly when the changes since the judgment,
if there were any, have left it on. -/
theorem test_closures_judged_on (dispatcher : Dispatcher) (rules : Rules) (policy : Policy)
    (schedule : List (CallerId × ServiceAction α ε)) {route : Route} {target : Target}
    {mediator : Option Identity}
    (ht : (run { dispatcher, rules, policy } schedule).final.step c a = some t)
    (hstarted : t.progress.started = some call)
    (hphase : call.phase = .calling route target mediator)
    (hroute : route = .shadow ∨ route = .fallback ∨ route = .whitelisted) :
    ∃ first rest, schedule ++ [(c, a)] = first ++ (c, .intercept call.interception) :: rest ∧
      (run { dispatcher, rules, policy } first).final.Judged call ∧
      t.progress.service.dispatcher.enabled = switched true rest := by
  -- it is enough to find the interception; how the switch stands then follows from the schedule
  suffices hsince : ∃ first rest,
      schedule ++ [(c, a)] = first ++ (c, .intercept call.interception) :: rest ∧
        (run { dispatcher, rules, policy } first).final.Judged call by
    obtain ⟨first, rest, hsplit, hjudged⟩ := hsince
    refine ⟨first, rest, hsplit, hjudged, ?_⟩
    have hon : switched dispatcher.enabled first = true :=
      (enabled_run { dispatcher, rules, policy } first).symm.trans hjudged.on
    calc t.progress.service.dispatcher.enabled
        = switched (switched dispatcher.enabled schedule) [(c, a)] := by
          rw [enabled_step ht, enabled_run]
          rfl
      _ = switched dispatcher.enabled (first ++ (c, .intercept call.interception) :: rest) := by
          rw [← hsplit, switched_append]
      _ = switched true rest := by
          rw [switched_append, hon]
          rfl
  rcases started_step ht hstarted with ⟨x, rfl, hcall | ⟨hconsulting, phase, hcall⟩⟩ |
    ⟨call', phase, hcall', hconsulting, hcall⟩
  · -- without a look-up the only route of test traffic is the whitelist
    refine ⟨schedule, [], by rw [hcall]; rfl, ?_⟩
    rw [hcall] at hphase ⊢
    obtain ⟨-, hshadow, hfallback⟩ := direct_begun x route target mediator hphase
    have hwhitelisted : route = .whitelisted := by
      rcases hroute with h | h | h
      · exact absurd h hshadow
      · exact absurd h hfallback
      · exact h
    exact judged_begun (.inr ⟨target, mediator, hwhitelisted ▸ hphase⟩)
  · refine ⟨schedule, [], by rw [hcall]; rfl, ?_⟩
    rw [hcall]
    exact (judged_begun (.inl hconsulting)).in_phase phase
  · obtain ⟨first, rest, rfl, hjudged⟩ := consulting_since rfl hcall' hconsulting
    refine ⟨first, rest ++ [(c, a)], by rw [hcall]; simp, ?_⟩
    rw [hcall]
    exact hjudged.in_phase phase

/-- A test call looks up its mediator when the switch is turned off. -/
def overtaken : List (CallerId × ServiceAction String String) :=
  [(0, .intercept {
      stack := 0
      boundary := "a"
      config := { endpoint := some "a" }
      business := "x"
      traffic := { entries := Dictionary.empty.insert "m" "1" } }),
    (1, .setEnabled false)]

theorem test_closures_judged_on_overtaken :
    ∃ t call, (run marking overtaken).final.step 0 (.registry (.built (.ok (some "s")))) = some t ∧
      t.progress.started = some call ∧
      ∃ first rest, overtaken ++ [(0, .registry (.built (.ok (some "s"))))] =
          first ++ (0, .intercept call.interception) :: rest ∧
        (run marking first).final.Judged call ∧
        t.progress.service.dispatcher.enabled = switched true rest := by
  have hstep : ∃ t call,
      (run marking overtaken).final.step 0 (.registry (.built (.ok (some "s")))) = some t ∧
        t.progress.started = some call ∧
        call.phase = .calling .shadow (.shadow "s") (some ⟨"a", "", "", "", ""⟩) :=
    ⟨_, _, rfl, rfl, rfl⟩
  obtain ⟨t, call, ht, hstarted, hphase⟩ := hstep
  exact ⟨t, call, ht, hstarted,
    test_closures_judged_on _ _ _ overtaken ht hstarted hphase (.inl rfl)⟩

/-- A marked call that the guard accepted runs on the business handle although the switch is off:
it was turned off while the factory, which then gave no shadow, was building. -/
theorem closure_starts_switched_off :
    ∃ t call, (run marking overtaken).final.step 0 (.registry (.built (.ok none))) = some t ∧
      t.progress.started = some call ∧ call.ticket.entered = true ∧
      (marking.rules.detect call.interception.traffic call.interception.resource).marked = true ∧
      call.phase = .calling .fallback .business (some ⟨"a", "", "", "", ""⟩) ∧
      t.progress.service.dispatcher.enabled = false :=
  ⟨_, _, rfl, rfl, rfl, rfl, rfl, rfl⟩

end Service

end ShadowTraffic
