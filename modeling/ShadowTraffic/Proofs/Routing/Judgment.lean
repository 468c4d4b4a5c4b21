import ShadowTraffic.Proofs.Routing.Table

/-! # What a dispatch tells of its judgment

Where no substitute answers, the rows of the routing table can be told apart from outside. Ordinary
traffic alone counts the business route, only the switch refuses a call, and only a whitelisted
resource counts the route of that name; a call that is looked up ends on neither of these. An answer
has the route that is counted.
-/

namespace ShadowTraffic

namespace Dispatcher

variable {α ε : Type}

/-- What an answer and the counted routes tell of how a call was judged. A failed look-up counts no
route, so test traffic is told by what is not counted. -/
structure Tells (d : Dispatcher) (rules : Rules) (t : TrafficContext) (resource : Option String)
    (x : Answered α ε × List Route) : Prop where
  business : x.2 ≠ [.business] ↔ rules.Marks t resource
  rejected : x.1 = .error .switchedOff ↔ rules.Marks t resource ∧ d.enabled = false
  whitelisted : x.2 = [.whitelisted] ↔
    rules.Marks t resource ∧ d.enabled = true ∧ d.Whitelists resource
  answered : ∀ v, x.1 = .ok v → x.2 = [v.route]

theorem delivered_ne_switchedOff {route : Route} {failure : ε → DispatchError ε}
    (h : ∀ e, failure e ≠ .switchedOff) (result : Except ε α) :
    delivered route failure result ≠ .error .switchedOff := by
  cases result with
  | ok value => nofun
  | error e => exact fun hsame => h e (Except.error.inj hsame)

theorem route_of_delivered {route : Route} {failure : ε → DispatchError ε} {result : Except ε α}
    {v : Dispatched α} (h : delivered route failure result = .ok v) : v.route = route := by
  cases result with
  | ok value => exact (Except.ok.inj h) ▸ rfl
  | error e => cases h

section

variable {d : Dispatcher} {rules : Rules} {t : TrafficContext} {resource : Option String}
  {σ : Type} {p : Client (StateM σ) α ε}

/-! ## Runs on a state -/

theorem tells_delivered {route : Route} {failure : ε → DispatchError ε}
    (hfailure : ∀ e, failure e ≠ .switchedOff) (result : Except ε α)
    (hbusiness : route ≠ .business ↔ rules.Marks t resource)
    (hon : rules.Marks t resource → d.enabled = true)
    (hlisted : route = .whitelisted ↔ rules.Marks t resource ∧ d.Whitelists resource) :
    Tells d rules t resource (delivered route failure result, [route]) where
  business := by simpa using hbusiness
  rejected := by
    refine iff_of_false (delivered_ne_switchedOff hfailure result) fun ⟨hmarks, hoff⟩ => ?_
    rw [hon hmarks] at hoff
    cases hoff
  whitelisted := by
    rw [List.cons.injEq, eq_self, and_true, hlisted]
    exact ⟨fun h => ⟨h.1, hon h.1, h.2⟩, fun h => ⟨h.1, h.2.2⟩⟩
  answered v hv := by rw [route_of_delivered hv]

/-- Without a substitute, a call that is looked up fails there or runs on a target. -/
theorem run_consulted (resource : Option String) (hnone : p.substitute = none) (before : σ) :
    (∃ e, ((consulted p resource).run before).1 = (.error (.configuration e), [])) ∨
      (∃ identity result, ((consulted p resource).run before).1 =
        (delivered .shadow (.shadow identity) result, [.shadow])) ∨
      ∃ result, ((consulted p resource).run before).1 =
        (delivered .fallback .business result, [.fallback]) := by
  obtain ⟨found, after, hlookup⟩ : ∃ found after, p.lookup.run before = (found, after) :=
    ⟨_, _, rfl⟩
  have hnext (next : Except IdentityError Mediator → StateM σ (Answered α ε × List Route)) :
      (p.lookup >>= next).run before = (next found).run after := by
    rw [StateT.run_bind, hlookup]
    rfl
  simp only [consulted, asked, hnone, pure_bind, hnext]
  -- first the look-up's answer, then the mediator's shadow
  cases found with
  | error e => exact .inl ⟨e, rfl⟩
  | ok mediator =>
    cases hlive : mediator.liveShadow? with
    | some h =>
      simp only [hlive]
      exact .inr (.inl ⟨mediator.identity, _, rfl⟩)
    | none =>
      simp only [hlive]
      exact .inr (.inr ⟨_, rfl⟩)

/-- Every dispatch without a substitute tells its judgment, whatever the caller's functions do. -/
theorem tells_dispatch (d : Dispatcher) (rules : Rules) (t : TrafficContext)
    (resource : Option String) (span : Option SpanId)
    (hnone : p.substitute = none) (before : σ) :
    Tells d rules t resource (seen ((d.dispatch rules t resource span p).run before).1) := by
  have hrow {row : StateM σ (Answered α ε × List Route)}
      (h : seen <$> d.dispatch rules t resource span p = row) :
      seen ((d.dispatch rules t resource span p).run before).1 = (row.run before).1 := by
    rw [← h]
    rfl
  -- one row of the table after the other
  by_cases hmarks : rules.Marks t resource
  · cases hon : d.enabled with
    | false =>
      rw [hrow (seen_dispatch_off hmarks hon)]
      change Tells d rules t resource (.error .switchedOff, [.rejected])
      exact ⟨by simp [hmarks], by simp [hmarks, hon], by simp [hon], nofun⟩
    | true =>
      by_cases hlisted : d.Whitelists resource
      · rw [hrow (seen_dispatch_whitelisted hmarks hon hlisted)]
        exact tells_delivered nofun _ (by simp [hmarks]) (fun _ => hon) (by simp [hmarks, hlisted])
      · rw [hrow (seen_dispatch_consulting hmarks hon hlisted)]
        rcases run_consulted resource hnone before with
          ⟨e, h⟩ | ⟨identity, result, h⟩ | ⟨result, h⟩
        · rw [h]
          exact ⟨by simp [hmarks], by simp [hon], by simp [hlisted], nofun⟩
        · rw [h]
          exact tells_delivered nofun _ (by simp [hmarks]) (fun _ => hon) (by simp [hlisted])
        · rw [h]
          exact tells_delivered nofun _ (by simp [hmarks]) (fun _ => hon) (by simp [hlisted])
  · rw [hrow (seen_dispatch_unmarked hmarks)]
    exact tells_delivered nofun _ (by simp [hmarks]) (absurd · hmarks) (by simp [hmarks])

/-- A rejection is reported with the detector that decided. -/
theorem rejection_mem_dispatch {span : Option SpanId} (h : rules.Marks t resource)
    (hoff : d.enabled = false) (before : σ) :
    .noticed (.rejected resource (rules.detect t resource).decidedBy) ∈
      ((d.dispatch rules t resource span p).run before).1.2 := by
  have hstart : d.start rules t resource (none : Option (Substitute α ε)) span =
      (.ended (.error .switchedOff),
        .noticed (.rejected resource (rules.detect t resource).decidedBy) ::
          routed span .rejected) := by
    rw [← Rules.detect_marked_iff] at h
    simp [start, judge, h, hoff]
  rw [dispatch_of_decided (by simp [hstart]), hstart]
  exact List.mem_cons_self

end

end Dispatcher

end ShadowTraffic
