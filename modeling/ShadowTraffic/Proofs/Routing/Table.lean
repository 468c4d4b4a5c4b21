import ShadowTraffic.Scenario.Calls

/-! # The routing table

A dispatch, all phases one after the other, comes to what the table says: which of the caller's
three functions run, in which order and on which handle, what is answered and which route is
counted. The functions may have effects in any monad, so an equation here also says that nothing
else of theirs runs.
-/

namespace ShadowTraffic

/-- How a dispatch answers. -/
abbrev Answered (α ε : Type) := Except (DispatchError ε) (Dispatched α)

/-- What the caller of a dispatch brings with it. -/
structure Client (m : Type → Type) (α ε : Type) where
  business : Handle
  substitute : Option (Option String → m (Option (Except ε α))) := none
  lookup : m (Except IdentityError Mediator)
  call : Target → Handle → m (Except ε α)

namespace Rules

/-- The first detector with a decision marks the call. -/
def Marks (r : Rules) (t : TrafficContext) (resource : Option String) : Prop :=
  ∃ before d after, r.detectors = before ++ d :: after ∧
    (∀ e ∈ before, e.evaluate t resource = none) ∧ d.evaluate t resource = some true

theorem firstDecision_marked (t : TrafficContext) (resource : Option String)
    (detectors : List Detector) :
    (firstDecision t resource detectors).marked =
      (detectors.findSome? (·.evaluate t resource)).getD false := by
  induction detectors with
  | nil => rfl
  | cons d rest ih =>
    cases hd : d.evaluate t resource with
    | some marked => simp [firstDecision, hd]
    | none => simp [firstDecision, hd, ih]

theorem detect_marked_iff {r : Rules} {t : TrafficContext} {resource : Option String} :
    (r.detect t resource).marked = true ↔ r.Marks t resource := by
  have hgetD {o : Option Bool} : o.getD false = true ↔ o = some true := by
    cases o <;> simp
  rw [detect, firstDecision_marked, hgetD, List.findSome?_eq_some_iff]
  constructor
  · rintro ⟨before, d, after, hsplit, hd, hbefore⟩
    exact ⟨before, d, after, hsplit, hbefore, hd⟩
  · rintro ⟨before, d, after, hsplit, hbefore, hd⟩
    exact ⟨before, d, after, hsplit, hd, hbefore⟩

end Rules

namespace Dispatcher

variable {m : Type → Type} [Monad m] {α ε : Type}

/-! ## A dispatch from start to end -/

/-- A phase is concluded: its closure runs on the target's handle, or it has ended already. -/
def conclude (p : Client m α ε) : DispatchPhase α ε × List Effect →
    m (Answered α ε × List Effect)
  | (.calling route target mediator, effects) => do
    let result ← p.call target (Scenario.Machine.targetHandle p.business target)
    let (answer, notices) := finish route target mediator result
    pure (answer, effects ++ notices)
  | (.ended answer, effects) => pure (answer, effects)
  | (.consulting, effects) => pure (.error .switchedOff, effects)

/-- The phases that follow the first one. -/
def follow (d : Dispatcher) (p : Client m α ε) (span : Option SpanId) :
    DispatchPhase α ε × List Effect → m (Answered α ε × List Effect)
  | (.consulting, effects) => do
    match ← p.lookup with
    | .error e => pure (.error (.configuration e), effects)
    | .ok mediator =>
      let (phase, notices) := d.found mediator span
      conclude p (phase, effects ++ notices)
  | decided => conclude p decided

/-- The substitute's answer, if there is one. -/
def asked (p : Client m α ε) (resource : Option String) : m (Option (Except ε α)) :=
  match p.substitute with
  | some substitute => substitute resource
  | none => pure none

/-- A whole dispatch. The substitute is asked where without one there would be a look-up. -/
def dispatch (d : Dispatcher) (rules : Rules) (t : TrafficContext) (resource : Option String)
    (span : Option SpanId) (p : Client m α ε) : m (Answered α ε × List Effect) := do
  let answer ← match (d.start rules t resource (none : Option (Substitute α ε)) span).1 with
    | .consulting => asked p resource
    | _ => pure none
  d.follow p span (d.start rules t resource (answer.map fun a _ => some a) span)

/-- The routes that are counted among some effects. -/
def routes (effects : List Effect) : List Route :=
  effects.filterMap fun
    | .counted (.dispatched route) => some route
    | _ => none

/-- What can be seen of a dispatch: its answer and the routes that it counts. -/
def seen (x : Answered α ε × List Effect) : Answered α ε × List Route :=
  (x.1, routes x.2)

/-! ## The rows -/

/-- A result with its route, or as a failure of that route. -/
def delivered (route : Route) (failure : ε → DispatchError ε) : Except ε α → Answered α ε
  | .ok value => .ok ⟨value, route⟩
  | .error e => .error (failure e)

/-- The closure runs once, on the caller's own handle. -/
def onBusiness (p : Client m α ε) (route : Route) : m (Answered α ε × List Route) := do
  let result ← p.call .business p.business
  pure (delivered route .business result, [route])

/-- The closure runs once, on a shadow. -/
def onShadow (p : Client m α ε) (identity : Identity) (h : Handle) :
    m (Answered α ε × List Route) := do
  let result ← p.call (.shadow h) h
  pure (delivered .shadow (.shadow identity) result, [.shadow])

/-- The substitute is asked, and a mediator is looked up when it declines. -/
def consulted (p : Client m α ε) (resource : Option String) : m (Answered α ε × List Route) := do
  match ← asked p resource with
  | some answer => pure (delivered .mock .substituted answer, [.mock])
  | none =>
    match ← p.lookup with
    | .error e => pure (.error (.configuration e), [])
    | .ok mediator =>
      match mediator.liveShadow? with
      | some h => onShadow p mediator.identity h
      | none => onBusiness p .fallback

def Whitelists (d : Dispatcher) (resource : Option String) : Prop :=
  ∃ name, resource = some name ∧ d.isWhitelisted name = true

/-- A run counts one route only, whatever it answers. -/
def Counts (run : m (Answered α ε × List Route)) (route : Route) : Prop :=
  ∃ answer : m (Answered α ε), run = (·, [route]) <$> answer

/-- The rows of the table, from the top. -/
structure Tabulated (d : Dispatcher) (rules : Rules) (t : TrafficContext)
    (resource : Option String) (p : Client m α ε) (run : m (Answered α ε × List Route)) :
    Prop where
  business : ¬ rules.Marks t resource → run = onBusiness p .business
  rejected : rules.Marks t resource → d.enabled = false →
    run = pure (.error .switchedOff, [.rejected])
  whitelisted : rules.Marks t resource → d.enabled = true → d.Whitelists resource →
    run = onBusiness p .whitelisted
  others : rules.Marks t resource → d.enabled = true → ¬ d.Whitelists resource →
    run = consulted p resource
  /-- Where neither whitelist nor substitute nor a faulty configuration interferes, the route that
  is counted is the one that `decide` gives. -/
  decided : ∀ mediator, ¬ d.Whitelists resource → asked p resource = pure none →
    p.lookup = pure (.ok mediator) →
    Counts run (d.decide (rules.detect t resource).marked mediator.liveShadow?.isSome)

/-! ## From the phases to the rows -/

section

variable {d : Dispatcher} {rules : Rules} {t : TrafficContext} {resource : Option String}
  (substitute : Option (Substitute α ε)) (span : Option SpanId)

theorem start_unmarked (h : ¬ rules.Marks t resource) :
    d.start rules t resource substitute span =
      (.calling .business .business none, routed span .business) := by
  rw [← Rules.detect_marked_iff, Bool.not_eq_true] at h
  simp [start, judge, h]

theorem start_off (h : rules.Marks t resource) (hoff : d.enabled = false) :
    ∃ notice, d.start rules t resource substitute span =
      (.ended (.error .switchedOff), .noticed notice :: routed span .rejected) := by
  rw [← Rules.detect_marked_iff] at h
  exact ⟨_, by simp only [start, judge, h, hoff]; rfl⟩

theorem whitelistedName?_of_whitelists (h : d.Whitelists resource) :
    ∃ name, d.whitelistedName? resource = some name := by
  obtain ⟨name, rfl, hname⟩ := h
  exact ⟨name, by simp [whitelistedName?, hname]⟩

theorem whitelistedName?_of_not_whitelists (h : ¬ d.Whitelists resource) :
    d.whitelistedName? resource = none := by
  rw [whitelistedName?, Option.filter_eq_none_iff]
  rintro name rfl hname
  exact h ⟨name, rfl, hname⟩

theorem start_whitelisted (h : rules.Marks t resource) (hon : d.enabled = true)
    (hlisted : d.Whitelists resource) :
    ∃ notice, d.start rules t resource substitute span =
      (.calling .whitelisted .business none, .noticed notice :: routed span .whitelisted) := by
  rw [← Rules.detect_marked_iff] at h
  obtain ⟨name, hname⟩ := whitelistedName?_of_whitelists hlisted
  exact ⟨_, by simp [start, judge, h, hon, hname]; rfl⟩

theorem start_answered (h : rules.Marks t resource) (hon : d.enabled = true)
    (hlisted : ¬ d.Whitelists resource) {a : Except ε α}
    (ha : substitute.bind (· resource) = some a) :
    ∃ notice, d.start rules t resource substitute span =
      (.ended (answered a), .noticed notice :: routed span .mock) := by
  rw [← Rules.detect_marked_iff] at h
  have hname := whitelistedName?_of_not_whitelists hlisted
  exact ⟨_, by simp [start, judge, h, hon, hname, ha]; rfl⟩

theorem start_consulting (h : rules.Marks t resource) (hon : d.enabled = true)
    (hlisted : ¬ d.Whitelists resource) (ha : substitute.bind (· resource) = none) :
    d.start rules t resource substitute span = (.consulting, []) := by
  rw [← Rules.detect_marked_iff] at h
  have hname := whitelistedName?_of_not_whitelists hlisted
  simp [start, judge, h, hon, hname, ha]

end

/-! ## Concluding -/

theorem routes_routed (span : Option SpanId) (route : Route) :
    routes (routed span route) = [route] := by
  cases span <;> rfl

theorem routes_notice (notice : Notice) (effects : List Effect) :
    routes (.noticed notice :: effects) = routes effects := rfl

theorem routes_append (first second : List Effect) :
    routes (first ++ second) = routes first ++ routes second :=
  List.filterMap_append

theorem routes_targetNotices (d : Dispatcher) (mediator : Mediator) :
    routes (d.targetNotices mediator) = [] := by
  unfold targetNotices
  split
  · rfl
  · split <;> rfl

section

variable [LawfulMonad m] {p : Client m α ε} {effects : List Effect} {route : Route}

theorem seen_conclude_business {mediator : Option Identity} (h : routes effects = [route]) :
    seen <$> conclude p (.calling route .business mediator, effects) = onBusiness p route := by
  simp only [conclude, onBusiness, map_bind, Scenario.Machine.targetHandle, map_pure]
  refine bind_congr fun result => ?_
  cases result <;> simp [seen, finish, delivered, h]

theorem seen_conclude_shadow {identity : Identity} {handle : Handle}
    (h : routes effects = [.shadow]) :
    seen <$> conclude p (.calling .shadow (.shadow handle) (some identity), effects) =
      onShadow p identity handle := by
  simp only [conclude, onShadow, map_bind, Scenario.Machine.targetHandle, map_pure]
  refine bind_congr fun result => ?_
  cases result with
  | ok value => simp [seen, finish, delivered, h]
  | error e =>
    simp only [seen, finish, routes_append, h]
    rfl

/-- A mediator sends the closure to its live shadow, or else to the caller's own handle. -/
theorem seen_conclude_found (d : Dispatcher) (span : Option SpanId) (mediator : Mediator) :
    seen <$> conclude p (d.found mediator span) =
      match mediator.liveShadow? with
      | some h => onShadow p mediator.identity h
      | none => onBusiness p .fallback := by
  have hroutes : routes (d.found (α := α) (ε := ε) mediator span).2 =
      [targetRoute (target mediator)] := by
    rw [found, routes_append, routes_targetNotices, routes_routed]
    rfl
  have hphase : (d.found (α := α) (ε := ε) mediator span).1 =
      .calling (targetRoute (target mediator)) (target mediator) (some mediator.identity) := rfl
  generalize d.found (α := α) (ε := ε) mediator span = found at hroutes hphase
  obtain ⟨phase, effects⟩ := found
  dsimp only at hroutes hphase
  subst hphase
  cases hlive : mediator.liveShadow? with
  | some h =>
    rw [show target mediator = .shadow h by rw [target, hlive]] at hroutes ⊢
    exact seen_conclude_shadow hroutes
  | none =>
    rw [show target mediator = .business by rw [target, hlive]] at hroutes ⊢
    exact seen_conclude_business hroutes

end

/-! ## The table -/

section

variable [LawfulMonad m] {d : Dispatcher} {rules : Rules} {t : TrafficContext}
  {resource : Option String} {span : Option SpanId} {p : Client m α ε}

/-- A dispatch that is not to look anything up asks nobody. -/
theorem dispatch_of_decided
    (h : (d.start rules t resource (none : Option (Substitute α ε)) span).1 ≠ .consulting) :
    d.dispatch rules t resource span p =
      conclude p (d.start rules t resource none span) := by
  unfold dispatch
  generalize hstart : d.start rules t resource (none : Option (Substitute α ε)) span = first at h
  obtain ⟨phase, effects⟩ := first
  cases phase with
  | consulting => exact absurd rfl h
  | calling route target mediator => simp [hstart, follow]
  | ended answer => simp [hstart, follow]

/-! ## Substitutes without effects -/

/-- All that counts of a substitute is what it says about the resource. -/
theorem start_congr {first second : Option (Substitute α ε)}
    (h : first.bind (· resource) = second.bind (· resource)) :
    d.start rules t resource first span = d.start rules t resource second span := by
  simp only [start, judge, h]

theorem start_of_decided (substitute : Option (Substitute α ε))
    (h : (d.start rules t resource (none : Option (Substitute α ε)) span).1 ≠ .consulting) :
    d.start rules t resource substitute span = d.start rules t resource none span := by
  cases hmarked : (rules.detect t resource).marked with
  | false => simp [start, judge, hmarked]
  | true =>
    cases hon : d.enabled with
    | false => simp [start, judge, hmarked, hon]
    | true =>
      cases hname : d.whitelistedName? resource with
      | some name => simp [start, judge, hmarked, hon, hname]
      | none => exact absurd (by simp [start, judge, hmarked, hon, hname]) h

/-- With a substitute that only computes, a dispatch is its phases one after the other. -/
theorem dispatch_of_pure {substitute : Option (Substitute α ε)}
    (h : p.substitute = substitute.map fun answer resource => pure (answer resource)) :
    d.dispatch rules t resource span p =
      d.follow p span (d.start rules t resource substitute span) := by
  by_cases hconsulting :
      (d.start rules t resource (none : Option (Substitute α ε)) span).1 = .consulting
  · have hasked : asked p resource = pure (substitute.bind (· resource)) := by
      rw [asked, h]
      cases substitute <;> rfl
    rw [dispatch, hconsulting]
    dsimp only
    rw [hasked, pure_bind]
    refine congrArg (d.follow p span) (start_congr ?_)
    cases substitute.bind (· resource) <;> rfl
  · rw [dispatch_of_decided hconsulting, start_of_decided substitute hconsulting]
    unfold follow
    split
    next effects hstart => exact absurd (by rw [hstart]) hconsulting
    next => rfl

/-! ## Row by row -/

theorem seen_dispatch_unmarked (h : ¬ rules.Marks t resource) :
    seen <$> d.dispatch rules t resource span p = onBusiness p .business := by
  have hstart := start_unmarked (d := d) (none : Option (Substitute α ε)) span h
  rw [dispatch_of_decided (by rw [hstart]; nofun), hstart]
  exact seen_conclude_business (routes_routed ..)

theorem seen_dispatch_off (h : rules.Marks t resource) (hoff : d.enabled = false) :
    seen <$> d.dispatch rules t resource span p = pure (.error .switchedOff, [.rejected]) := by
  obtain ⟨notice, hstart⟩ := start_off (none : Option (Substitute α ε)) span h hoff
  rw [dispatch_of_decided (by rw [hstart]; nofun), hstart]
  simp [conclude, seen, routes_notice, routes_routed]

theorem seen_dispatch_whitelisted (h : rules.Marks t resource) (hon : d.enabled = true)
    (hlisted : d.Whitelists resource) :
    seen <$> d.dispatch rules t resource span p = onBusiness p .whitelisted := by
  obtain ⟨notice, hstart⟩ :=
    start_whitelisted (none : Option (Substitute α ε)) span h hon hlisted
  rw [dispatch_of_decided (by rw [hstart]; nofun), hstart]
  exact seen_conclude_business (routes_routed ..)

/-- A dispatch that would look its mediator up asks the substitute first. -/
theorem seen_dispatch_consulting (h : rules.Marks t resource) (hon : d.enabled = true)
    (hlisted : ¬ d.Whitelists resource) :
    seen <$> d.dispatch rules t resource span p = consulted p resource := by
  rw [dispatch, start_consulting none span h hon hlisted rfl, map_bind]
  refine bind_congr fun answer => ?_
  cases answer with
  | some a =>
    obtain ⟨notice, hstart⟩ := start_answered (some fun _ => some a) span h hon hlisted rfl
    simp only [Option.map_some, hstart, follow, conclude, map_pure, seen, routes_notice,
      routes_routed]
    cases a <;> rfl
  | none =>
    simp only [Option.map_none, start_consulting none span h hon hlisted rfl, follow, map_bind]
    refine bind_congr fun looked => ?_
    cases looked with
    | error e => simp [seen, routes]
    | ok mediator => exact seen_conclude_found d span mediator

theorem counts_onBusiness (p : Client m α ε) (route : Route) :
    Counts (onBusiness p route) route :=
  ⟨delivered route .business <$> p.call .business p.business, by simp [onBusiness]⟩

theorem counts_onShadow (p : Client m α ε) (identity : Identity) (h : Handle) :
    Counts (onShadow p identity h) .shadow :=
  ⟨delivered .shadow (.shadow identity) <$> p.call (.shadow h) h, by simp [onShadow]⟩

/-- Every dispatch is told by the table, whatever the caller's functions do. -/
theorem dispatch_tabulated (d : Dispatcher) (rules : Rules) (t : TrafficContext)
    (resource : Option String) (span : Option SpanId) (p : Client m α ε) :
    Tabulated d rules t resource p (seen <$> d.dispatch rules t resource span p) where
  business := seen_dispatch_unmarked
  rejected := seen_dispatch_off
  whitelisted := seen_dispatch_whitelisted
  others := seen_dispatch_consulting
  decided mediator hlisted hasked hlookup := by
    by_cases h : rules.Marks t resource
    · have hmarked := Rules.detect_marked_iff.mpr h
      cases hon : d.enabled with
      | false =>
        rw [seen_dispatch_off h hon]
        exact ⟨pure (.error .switchedOff), by simp [decide, hmarked, hon]⟩
      | true =>
        rw [seen_dispatch_consulting h hon hlisted, consulted, hasked, pure_bind]
        dsimp only
        rw [hlookup, pure_bind]
        dsimp only
        cases hlive : mediator.liveShadow? with
        | some handle =>
          simpa [decide, hmarked, hon] using counts_onShadow p mediator.identity handle
        | none => simpa [decide, hmarked, hon] using counts_onBusiness p .fallback
    · rw [seen_dispatch_unmarked h]
      rw [← Rules.detect_marked_iff, Bool.not_eq_true] at h
      simpa [decide, h] using counts_onBusiness p .business

end

/-- A client that tells what of it is run; its resource has a shadow, which fails. -/
def telling : Client (StateM (List String)) String String where
  business := "x"
  substitute := some fun _ => do
    modify (· ++ ["substitute"])
    pure none
  lookup := do
    modify (· ++ ["lookup"])
    pure (.ok {
      identity := ⟨"a", "", "", "", ""⟩, config := {}, business := "x", shadow := some "s" })
  call _ handle := do
    modify (· ++ [handle])
    pure (.error "down")

theorem dispatch_tabulated_telling :
    let d : Dispatcher :=
      { propagator := 0, enabled := true, flagFallback := false, whitelist := .empty }
    let rules : Rules :=
      { markerKey := "m", traceIdKey := "t", propagationKeys := .empty
        detectors := [.explicitKey "m" ["1"]] }
    let t : TrafficContext := { entries := Dictionary.empty.insert "m" "1" }
    (seen <$> d.dispatch rules t none none telling).run [] =
      ((.error (.shadow ⟨"a", "", "", "", ""⟩ "down"), [.shadow]),
        ["substitute", "lookup", "s"]) := by
  intro d rules t
  have hmarked : rules.Marks t none :=
    ⟨[], .explicitKey "m" ["1"], [], rfl, by simp, rfl⟩
  have hlisted : ¬ d.Whitelists none := by
    rintro ⟨name, hname, -⟩
    cases hname
  rw [(dispatch_tabulated d rules t none none telling).others hmarked rfl hlisted]
  rfl

end Dispatcher

end ShadowTraffic
