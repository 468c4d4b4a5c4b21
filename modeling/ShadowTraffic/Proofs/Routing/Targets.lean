import ShadowTraffic.Proofs.Registry.Answers
import ShadowTraffic.Proofs.Routing.Steps

/-! # Calls on current mediators

Between a look-up and the decision that it leads to nothing is suspended. So a closure that starts
on a shadow starts on the one that the map holds at that moment, and one that falls back for want of
a shadow does so for a mediator that was built without one.
-/

namespace ShadowTraffic

theorem Shared.Same.sound {a b : Shared} {held : List SlotId} (h : a.Same b) (hs : a.Sound held) :
    b.Sound held := by
  obtain ⟨hregistry, hongoing⟩ := h
  unfold Sound
  rw [← hregistry, ← hongoing]
  exact hs

namespace Service

variable {α ε : Type} {s : Service α ε} {c d : CallerId} {a : ServiceAction α ε}
  {t : ServiceTransition α ε} {call call' : Call α ε}

/-! ## Frames -/

/-- A step leaves the registry alone, or is one stretch of its caller on it. -/
theorem shared_step (ht : s.step c a = some t) :
    (t.progress.stretch = none ∧ s.shared.Same t.progress.service.shared) ∨
      ∃ mid b u, s.shared.Same mid ∧ mid.step c b = some u ∧ t.progress.stretch = some u ∧
        t.progress.service.shared = u.after := by
  obtain ⟨-, hadvances⟩ := step_spec ht
  generalize t.progress = p at hadvances ⊢
  cases hadvances with
  | intercept idle free h =>
    rename_i x
    rcases intercept_cases h with ⟨call, -, -, -, hstretch, hservice, -⟩ |
      ⟨q, u, -, -, hu, hstretch, hservice, -⟩
    · refine .inl ⟨hstretch, ?_⟩
      rw [hservice, shared_enter]
      exact same_begun x
    · exact .inr ⟨_, _, u, same_begun x, hu, hstretch, by simp [hservice, lookedUp]⟩
  | registry idle hu => exact .inr ⟨_, _, _, ⟨rfl, rfl⟩, hu, rfl, rfl⟩
  | lookUp here consulting hu =>
    exact .inr ⟨_, _, _, ⟨rfl, rfl⟩, hu, rfl, by simp [lookedUp]⟩
  | finish result here calling => exact .inl ⟨by simp, by simp [Shared.Same]⟩
  | abandon here calling => exact .inl ⟨by simp, by simp [Shared.Same]⟩
  | setEnabled enabled => exact .inl ⟨rfl, rfl, rfl⟩
  | setWhitelist resources => exact .inl ⟨rfl, rfl, rfl⟩
  | reload rules => exact .inl ⟨rfl, rfl, rfl⟩

theorem calls_step (ht : s.step c a = some t) (hne : d ≠ c) :
    t.progress.service.calls d = s.calls d := by
  obtain ⟨-, hadvances⟩ := step_spec ht
  generalize t.progress = p at hadvances ⊢
  cases hadvances with
  | intercept idle free h =>
    rcases intercept_cases h with ⟨call, -, -, -, -, hservice, -⟩ | ⟨q, u, -, -, -, -, hservice, -⟩
    · rw [hservice, calls_enter_of_ne hne, calls_begun]
    · rw [hservice]
      exact calls_settled_of_ne _ hne
  | registry idle hu => rfl
  | lookUp here consulting hu => exact calls_settled_of_ne _ hne
  | finish result here calling => simp [hne]
  | abandon here calling => simp [hne]
  | setEnabled enabled => rfl
  | setWhitelist resources => rfl
  | reload rules => rfl

theorem ongoing_step (ht : s.step c a = some t) (hne : d ≠ c) :
    t.progress.service.shared.ongoing d = s.shared.ongoing d := by
  rcases shared_step ht with ⟨-, -, hongoing⟩ | ⟨mid, b, u, ⟨-, hongoing⟩, hu, -, hafter⟩
  · rw [hongoing]
  · rw [hafter, Shared.step_ongoing hu hne, hongoing]

/-! ## The invariant -/

structure Sound (s : Service α ε) : Prop where
  registry : ∃ held, s.shared.Sound held
  /-- A call that looks up is a fetch of its caller for its own resource. -/
  asking : ∀ {c call}, s.calls c = some call → call.phase = .consulting →
    ∃ q phase, s.shared.ongoing c = some (.fetch q phase) ∧ call.interception.request? = .ok q

theorem Sound.fresh (dispatcher : Dispatcher) (rules : Rules) (policy : Policy) :
    Sound { dispatcher, rules, policy : Service α ε } where
  registry := ⟨[], Shared.Sound.initial⟩
  asking hcall := by cases hcall

/-- A look-up that does not decide is a fetch that is still suspended. -/
theorem lookup_goes_on {mid : Shared} {held : List SlotId} {b : Action} {u : Transition}
    {q : Request} (hs : mid.Sound held) (hu : mid.step c b = some u)
    (hq : b = .fetch q ∨ ∃ phase, mid.ongoing c = some (.fetch q phase))
    (hcall : (s.lookedUp c call u).service.calls c = some call')
    (hphase : call'.phase = .consulting) :
    call' = call ∧ ∃ phase, u.after.ongoing c = some (.fetch q phase) := by
  obtain ⟨rfl, habandoned, hreturned⟩ := calls_settled_self hcall hphase
  rcases Shared.step_fetch hu hq with ⟨phase, -, hongoing⟩ | ⟨slot, hout⟩ | ⟨phase, hout⟩
  · exact ⟨rfl, phase, hongoing⟩
  · obtain ⟨m, hm⟩ := hs.given hu hout rfl
    have hnone : u.after.registry.mediator? slot = none := hreturned q slot hout
    rw [hm.mediator_eq] at hnone
    cases hnone
  · exact absurd hout (habandoned _)

/-- A look-up that decides has given the mediator of the call's own resource. -/
theorem lookup_decides {mid : Shared} {held : List SlotId} {b : Action} {u : Transition}
    {q : Request} (hs : mid.Sound held) (hu : mid.step c b = some u)
    (hq : b = .fetch q ∨ ∃ phase, mid.ongoing c = some (.fetch q phase))
    (hphase : call.phase = .consulting)
    (hstarted : (s.lookedUp c call u).started = some call') :
    ∃ slot m, u.after.registry.Current q.identity slot m ∧
      call'.interception = call.interception ∧
      call'.phase = .calling (Dispatcher.targetRoute (Dispatcher.target m)) (Dispatcher.target m)
        (some m.identity) := by
  obtain ⟨q', slot, m, hout, hm, hinterception, hcalling⟩ := started_settled hphase hstarted
  have hq' : q' = q := by
    rcases Shared.step_fetch hu hq with ⟨phase, hout', -⟩ | ⟨slot', hout'⟩ | ⟨phase, hout'⟩
    · rw [hout'] at hout
      cases hout
    · rw [hout'] at hout
      cases hout
      rfl
    · rw [hout'] at hout
      cases hout
  obtain ⟨m', hm'⟩ := hs.given hu hout rfl
  have hmed : m' = m := Option.some.inj (hm'.mediator_eq.symm.trans hm)
  rw [hq', hmed] at hm'
  exact ⟨slot, m, hm', hinterception, hcalling⟩

theorem Sound.step (h : s.Sound) (ht : s.step c a = some t) : t.progress.service.Sound where
  registry := by
    obtain ⟨held, hs⟩ := h.registry
    rcases shared_step ht with ⟨-, hsame⟩ | ⟨mid, b, u, hsame, hu, -, hafter⟩
    · exact ⟨held, hsame.sound hs⟩
    · rw [hafter]
      exact ⟨_, (hsame.sound hs).step hu⟩
  asking := by
    intro d call hcall hphase
    by_cases hdc : d = c
    · subst hdc
      obtain ⟨held, hs⟩ := h.registry
      obtain ⟨-, hadvances⟩ := step_spec ht
      generalize t.progress = p at hadvances hcall ⊢
      cases hadvances with
      | intercept idle free hx =>
        rename_i x
        rcases intercept_cases hx with ⟨call', -, hne, -, -, hservice, -⟩ |
          ⟨q, u, hq, -, hu, -, hservice, -⟩
        · rw [hservice] at hcall
          rw [calls_enter_self hcall] at hphase
          exact absurd hphase hne
        · rw [hservice] at hcall ⊢
          obtain ⟨rfl, phase, hongoing⟩ :=
            lookup_goes_on ((same_begun x).sound hs) hu (.inl rfl) hcall hphase
          exact ⟨q, phase, by simpa [lookedUp] using hongoing, hq⟩
      | registry idle hu =>
        rw [show s.calls d = some call from hcall] at idle
        cases idle
      | lookUp here consulting hu =>
        obtain ⟨q, phase, hongoing, hq⟩ := h.asking here consulting
        obtain ⟨rfl, phase', hongoing'⟩ :=
          lookup_goes_on hs hu (.inr ⟨phase, hongoing⟩) hcall hphase
        exact ⟨q, phase', by simpa [lookedUp] using hongoing', hq⟩
      | finish result here calling => simp at hcall
      | abandon here calling => simp at hcall
      | setEnabled enabled => exact h.asking hcall hphase
      | setWhitelist resources => exact h.asking hcall hphase
      | reload rules => exact h.asking hcall hphase
    · rw [calls_step ht hdc] at hcall
      rw [ongoing_step ht hdc]
      exact h.asking hcall hphase

/-! ## Closures -/

/-- A closure that is started was not decided by a mediator, or by the one that is current. -/
theorem Sound.started (h : s.Sound) (ht : s.step c a = some t)
    (hstarted : t.progress.started = some call) :
    call.phase.Direct ∨
      ∃ q slot m, call.interception.request? = .ok q ∧
        t.progress.service.shared.registry.Current q.identity slot m ∧
        call.phase = .calling (Dispatcher.targetRoute (Dispatcher.target m))
          (Dispatcher.target m) (some m.identity) := by
  obtain ⟨held, hs⟩ := h.registry
  obtain ⟨-, hadvances⟩ := step_spec ht
  generalize t.progress = p at hadvances hstarted ⊢
  cases hadvances with
  | intercept idle free hx =>
    rename_i x
    rcases intercept_cases hx with ⟨call', -, -, hdirect, -, -, heq⟩ |
      ⟨q, u, hq, hconsulting, hu, -, hservice, heq⟩
    · rw [heq] at hstarted
      obtain ⟨rfl, -⟩ := started_enter hstarted
      exact .inl hdirect
    · rw [heq] at hstarted
      obtain ⟨slot, m, hm, hinterception, hphase⟩ :=
        lookup_decides ((same_begun x).sound hs) hu (.inl rfl) hconsulting hstarted
      rw [hservice]
      refine .inr ⟨q, slot, m, ?_, by simpa [lookedUp] using hm, hphase⟩
      rw [hinterception]
      exact hq
  | lookUp here consulting hu =>
    obtain ⟨q, phase, hongoing, hq⟩ := h.asking here consulting
    obtain ⟨slot, m, hm, hinterception, hphase⟩ :=
      lookup_decides hs hu (.inr ⟨phase, hongoing⟩) consulting hstarted
    exact .inr ⟨q, slot, m, hinterception ▸ hq, by simpa [lookedUp] using hm, hphase⟩
  | registry idle hu => cases hstarted
  | finish result here calling => simp at hstarted
  | abandon here calling => simp at hstarted
  | setEnabled enabled => cases hstarted
  | setWhitelist resources => cases hstarted
  | reload rules => cases hstarted

/-! ## Runs -/

theorem Sound.run (h : s.Sound) (schedule : List (CallerId × ServiceAction α ε)) :
    (s.run schedule).final.Sound :=
  System.run_invariant (fun h ht => h.step ht) h schedule

theorem Sound.filling?_step (h : s.Sound) (ht : s.step c a = some t) {k : SlotId} {m : Mediator}
    (hm : t.progress.service.shared.registry.filling? k = some m) :
    s.shared.registry.filling? k = some m ∨
      ∃ u, t.progress.stretch = some u ∧ u.fills? k = some m := by
  obtain ⟨held, hs⟩ := h.registry
  rcases shared_step ht with ⟨-, hregistry, -⟩ | ⟨mid, b, u, hsame, hu, hstretch, hafter⟩
  · rw [hregistry]
    exact .inl hm
  · rw [hafter, (hsame.sound hs).filling?_step hu, Option.or_eq_some_iff] at hm
    rcases hm with hfills | ⟨-, hbefore⟩
    · exact .inr ⟨u, hstretch, hfills⟩
    · rw [hsame.1]
      exact .inl hbefore

/-- What a slot is filled with was there before the run or was built in it. -/
theorem Sound.filling?_run (h : s.Sound) (schedule : List (CallerId × ServiceAction α ε))
    {k : SlotId} {m : Mediator}
    (hm : (s.run schedule).final.shared.registry.filling? k = some m) :
    s.shared.registry.filling? k = some m ∨
      ∃ t ∈ (s.run schedule).transitions, ∃ u, t.progress.stretch = some u ∧
        u.fills? k = some m := by
  refine System.run_origin (P := fun s => s.shared.registry.filling? k = some m)
    (fun h ht => h.step ht) ?_ h schedule hm
  intro s e t h ht hafter
  exact h.filling?_step ht hafter

/-- A build among the transitions that filled the slot with the mediator and gave no shadow. -/
def BuiltWithout (ts : List (ServiceTransition α ε)) (slot : SlotId) (m : Mediator) : Prop :=
  ∃ t ∈ ts, ∃ u q p, t.progress.stretch = some u ∧ u.completion? = some (q, slot, p) ∧
    m = q.filling p ∧ (p = .ok none ∨ ∃ e, p = .error e)

theorem handle?_eq_none {p : Provision} (h : p.handle? = none) :
    p = .ok none ∨ ∃ e, p = .error e := by
  cases p with
  | error e => exact .inr ⟨e, rfl⟩
  | ok handle =>
    cases handle with
    | none => exact .inl rfl
    | some h' => cases h

theorem target_of_unreleased {m : Mediator} (h : m.released = false) :
    Dispatcher.target m = match m.shadow with
      | some handle => .shadow handle
      | none => .business := by
  unfold Dispatcher.target Mediator.liveShadow?
  rw [h]
  cases m.shadow <;> rfl

theorem resolve_of_request? {x : Interception α ε} {q : Request} (h : x.request? = .ok q) :
    x.config.resolve = .ok q.identity := by
  unfold Interception.request? at h
  cases hresolve : x.config.resolve with
  | error e =>
    rw [hresolve] at h
    cases h
  | ok i =>
    rw [hresolve] at h
    cases h
    rfl

/-- A filling without a shadow came out of a build in the run. -/
theorem built_without {dispatcher : Dispatcher} {rules : Rules} {policy : Policy}
    {schedule : List (CallerId × ServiceAction α ε)} {slot : SlotId} {m : Mediator}
    (ht : (run { dispatcher, rules, policy } schedule).final.step c a = some t)
    (hm : t.progress.service.shared.registry.filling? slot = some m) (hshadow : m.shadow = none) :
    BuiltWithout ((run { dispatcher, rules, policy } schedule).transitions ++ [t]) slot m := by
  have hfresh := Sound.fresh (α := α) (ε := ε) dispatcher rules policy
  have hfilled : ∃ t' ∈ (run { dispatcher, rules, policy } schedule).transitions ++ [t],
      ∃ u, t'.progress.stretch = some u ∧ u.fills? slot = some m := by
    rcases (hfresh.run schedule).filling?_step ht hm with hbefore | hfills
    · rcases hfresh.filling?_run schedule hbefore with hempty | ⟨t', ht', hfills⟩
      · simp [Registry.filling?, Registry.mediator?, Registry.cell] at hempty
      · exact ⟨t', List.mem_append_left _ ht', hfills⟩
    · exact ⟨t, by simp, hfills⟩
  obtain ⟨t', ht', u, hu, hfills⟩ := hfilled
  obtain ⟨q, p, hcompletion, rfl⟩ := Transition.fills?_eq_some.mp hfills
  exact ⟨t', ht', u, q, p, hu, hcompletion, rfl, handle?_eq_none hshadow⟩

/-- A service that takes the key `m` for the mark of test traffic. -/
def marking : Service String String where
  dispatcher := { propagator := 0, enabled := true, flagFallback := false, whitelist := .empty }
  rules :=
    { markerKey := "m", traceIdKey := "t", propagationKeys := .empty
      detectors := [.explicitKey "m" ["1"]] }
  policy := .boundary

/-- Two test calls look up their mediators when the registry is released; the shadow that the first
one's build then gives is closed, and it builds again. -/
def raced : List (CallerId × ServiceAction String String) :=
  let ask (endpoint : String) : ServiceAction String String := .intercept {
    stack := 0
    boundary := endpoint
    config := { endpoint := some endpoint }
    business := "x"
    traffic := { entries := Dictionary.empty.insert "m" "1" } }
  [(0, ask "a"), (1, ask "b"), (2, .registry .release), (0, .registry (.built (.ok (some "s")))),
    (0, .registry (.closed none)), (1, .registry (.built (.ok (some "u")))),
    (1, .registry (.closed none))]

end Service

end ShadowTraffic
