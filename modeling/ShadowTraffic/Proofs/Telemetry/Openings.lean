import ShadowTraffic.Proofs.Registry.Shared

/-! # What the registry does to spans

A stretch on the registry may open the one span that is offered to it, records no route on any
span and counts none. So whatever routes a span carries were put there by calls that are routed, and
so were those that are counted.
-/

namespace ShadowTraffic

/-- The routes recorded on a span, in order. -/
def routesOn (id : SpanId) (effects : List Effect) : List Route :=
  effects.filterMap fun
    | .recorded i (.route r) => if i = id then some r else none
    | _ => none

/-- What a span was opened for, each time that it was. -/
def openings (id : SpanId) (effects : List Effect) : List Span :=
  effects.filterMap fun
    | .opened i span => if i = id then some span else none
    | _ => none

/-- The routes that are counted, in order. -/
def routesCounted (effects : List Effect) : List Route :=
  effects.filterMap fun
    | .counted (.dispatched r) => some r
    | _ => none

@[simp] theorem routesOn_append (id : SpanId) (first second : List Effect) :
    routesOn id (first ++ second) = routesOn id first ++ routesOn id second :=
  List.filterMap_append

@[simp] theorem openings_append (id : SpanId) (first second : List Effect) :
    openings id (first ++ second) = openings id first ++ openings id second :=
  List.filterMap_append

@[simp] theorem routesCounted_append (first second : List Effect) :
    routesCounted (first ++ second) = routesCounted first ++ routesCounted second :=
  List.filterMap_append

/-- An effect that records no route, counts none and opens no span but `fresh`. -/
def Effect.Quiet (fresh : SpanId) : Effect → Prop
  | .recorded _ (.route _) => False
  | .counted (.dispatched _) => False
  | .opened id _ => id = fresh
  | _ => True

/-- Effects that record no route, count none and open no span but `fresh`. -/
structure Quiet (fresh : SpanId) (effects : List Effect) : Prop where
  each : ∀ e ∈ effects, e.Quiet fresh

variable {id fresh : SpanId} {effects : List Effect}

namespace Effect

@[simp] theorem quiet_noticed (n : Notice) : (noticed n).Quiet fresh := trivial

@[simp] theorem quiet_opened (span : Span) : (opened id span).Quiet fresh ↔ id = fresh := Iff.rfl

@[simp] theorem quiet_duration : (recorded id .duration).Quiet fresh := trivial

@[simp] theorem quiet_provisioned (o : ProvisionOutcome) :
    (counted (.provisioned o)).Quiet fresh := trivial

@[simp] theorem quiet_misused (boundary : String) : (counted (.misused boundary)).Quiet fresh :=
  trivial

@[simp] theorem quiet_sampled : sampled.Quiet fresh := trivial

@[simp] theorem quiet_activeSet (n : Nat) : (activeSet n).Quiet fresh := trivial

end Effect

theorem quiet_iff : Quiet fresh effects ↔ ∀ e ∈ effects, e.Quiet fresh :=
  ⟨Quiet.each, .mk⟩

@[simp] theorem quiet_nil : Quiet fresh [] := ⟨by simp⟩

@[simp] theorem quiet_cons (e : Effect) :
    Quiet fresh (e :: effects) ↔ e.Quiet fresh ∧ Quiet fresh effects := by
  simp [quiet_iff]

@[simp] theorem quiet_append (first second : List Effect) :
    Quiet fresh (first ++ second) ↔ Quiet fresh first ∧ Quiet fresh second := by
  simp [quiet_iff, or_imp, forall_and]

theorem Quiet.routesOn_eq_nil (h : Quiet fresh effects) : routesOn id effects = [] := by
  rw [routesOn, List.filterMap_eq_nil_iff]
  intro e he
  have hquiet := h.each e he
  cases e with
  | recorded i record =>
    cases record with
    | route r => exact hquiet.elim
    | duration => rfl
  | _ => rfl

theorem Quiet.routesCounted_eq_nil (h : Quiet fresh effects) : routesCounted effects = [] := by
  rw [routesCounted, List.filterMap_eq_nil_iff]
  intro e he
  have hquiet := h.each e he
  cases e with
  | counted c =>
    cases c with
    | dispatched r => exact hquiet.elim
    | _ => rfl
  | _ => rfl

theorem Quiet.openings_eq_nil (h : Quiet fresh effects) (hne : id ≠ fresh) :
    openings id effects = [] := by
  rw [openings, List.filterMap_eq_nil_iff]
  intro e he
  have hquiet := h.each e he
  cases e with
  | opened i span =>
    have hi : i = fresh := hquiet
    simp [hi, hne.symm]
  | _ => rfl

/-- Numbers that were given before, or are given later, are not opened. -/
theorem Quiet.openings_of_outside (h : Quiet fresh effects)
    (hid : id < fresh ∨ fresh + 1 ≤ id) : openings id effects = [] := by
  refine h.openings_eq_nil ?_
  rintro rfl
  exact hid.elim (Nat.lt_irrefl _) (Nat.not_succ_le_self _)

/-! ## Parts of stretches -/

variable (fresh)

theorem quiet_closeEffects (m : Mediator) (failure : Option ProvisionError) :
    Quiet fresh (closeEffects m failure) := by
  unfold closeEffects
  cases failure <;> simp

theorem quiet_exit (s : Scopes) (t : Ticket) : Quiet fresh (s.exit t).2 := by
  unfold Scopes.exit
  split <;> simp

namespace Fetch

theorem quiet_drift (r : Registry) (slot : SlotId) (config : Descriptor) :
    Quiet fresh (drift r slot config) := by
  unfold drift
  split
  · split <;> simp
  · simp

theorem quiet_attempt (r : Registry) (caller : CallerId) (q : Request) :
    Quiet fresh (attempt r caller q fresh).effects := by
  unfold attempt
  dsimp only
  split
  · exact quiet_drift ..
  · simp [startBuild]
  · simp

theorem quiet_settle (r : Registry) (caller : CallerId) (q : Request) (slot : SlotId)
    (constructed : Bool) : Quiet fresh (settle r caller q fresh slot constructed).effects := by
  unfold settle
  split
  · cases constructed <;> simp [quiet_drift]
  · split
    · exact quiet_attempt ..
    · simp [Stretch.after, quiet_closeEffects, quiet_attempt]
    · simp

end Fetch

theorem Release.quiet_drain (r : Registry) (count : Nat) (slots : List SlotId) :
    Quiet fresh (drain r count slots).effects := by
  induction slots generalizing r count with
  | nil =>
    unfold drain
    dsimp only
    split <;> simp
  | cons slot rest ih =>
    unfold drain
    split
    · exact ih ..
    · simp [Stretch.after, quiet_closeEffects, ih]
    · simp

namespace Shared

/-- Every stretch is quiet, one case for each place that a caller can stand at. -/
theorem Takes.quiet {s : Shared} {c : CallerId} {a : Action} {st : Stretch Outcome}
    (h : Takes s c a st) : Quiet s.spans st.effects := by
  cases h with
  | fetch q idle =>
    simp only [Stretch.map, Fetch.start]
    split
    · simp [Fetch.quiet_drift]
    · exact Fetch.quiet_attempt ..
  | lookup i idle => simp
  | invalidate i idle =>
    simp only [Stretch.map, Invalidate.start]
    split
    · simp
    · split <;> simp [Invalidate.finish, Stretch.after, quiet_closeEffects]
  | release idle =>
    simp [Stretch.map, Release.start, Stretch.after, Release.quiet_drain]
  | resume here =>
    simp only [Stretch.map, Fetch.resume]
    split
    · exact Fetch.quiet_settle ..
    · split <;> simp [Fetch.startBuild]
    · simp [Fetch.startBuild]
  | built p here =>
    simp [Stretch.map, Fetch.built, Stretch.waking, Stretch.after, Fetch.timed,
      Fetch.quiet_settle]
  | closed failure here =>
    simp [Stretch.map, Fetch.closed, Stretch.after, quiet_closeEffects,
      Fetch.quiet_attempt]
  | @abandon q phase here =>
    simp only [Stretch.map]
    cases phase with
    | waiting slot =>
      simp only [Fetch.abandon]
      split
      · split
        · unfold Fetch.passOn
          split <;> simp
        · simp
      · simp
    | building slot span =>
      simp only [Fetch.abandon, Stretch.after]
      unfold Fetch.passOn
      split <;> simp [Fetch.timed]
    | closing slot m => simp [Fetch.abandon]
  | invalidated failure here =>
    simp [Stretch.map, Invalidate.closed, Invalidate.finish, Stretch.after,
      quiet_closeEffects]
  | abandonInvalidation here => simp
  | released failure here =>
    simp [Stretch.map, Release.closed, Stretch.after, quiet_closeEffects, Release.quiet_drain]
  | abandonRelease here => simp

/-- A transition on the registry is quiet, and uses up the span that was offered to it. -/
theorem step_quiet {s : Shared} {c : CallerId} {a : Action} {t : Transition}
    (h : s.step c a = some t) :
    Quiet s.spans t.effects ∧ t.after.spans = s.spans + 1 := by
  obtain ⟨st, hst, rfl⟩ := Option.map_eq_some_iff.mp h
  exact ⟨(takes_of_stretch? hst).quiet, rfl⟩

/-- An operation is abandoned only by a caller that goes away. -/
theorem step_abandoned {s : Shared} {c : CallerId} {a : Action} {t : Transition} {o : Ongoing}
    (h : s.step c a = some t) (hout : t.outcome = .abandoned o) : a = .abandon := by
  obtain ⟨-, -, -, st, htakes, houtcome, -⟩ := step_spec h
  rw [houtcome] at hout
  have hfetch (q : Request) (out : FetchOutcome) : Outcome.ofFetch q out ≠ .abandoned o := by
    cases out <;> nofun
  have hinvalidate (i : Identity) (out : InvalidateOutcome) :
      Outcome.ofInvalidate i out ≠ .abandoned o := by
    cases out <;> nofun
  have hrelease (out : ReleaseOutcome) : Outcome.ofRelease out ≠ .abandoned o := by
    cases out <;> nofun
  cases htakes with
  | fetch q idle => exact (hfetch _ _ hout).elim
  | lookup i idle => cases hout
  | invalidate i idle => exact (hinvalidate _ _ hout).elim
  | release idle => exact (hrelease _ hout).elim
  | resume here => exact (hfetch _ _ hout).elim
  | built p here => exact (hfetch _ _ hout).elim
  | closed failure here => exact (hfetch _ _ hout).elim
  | abandon here => rfl
  | invalidated failure here => cases hout
  | abandonInvalidation here => rfl
  | released failure here => exact (hrelease _ hout).elim
  | abandonRelease here => rfl

end Shared

end ShadowTraffic
