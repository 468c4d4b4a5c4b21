import ShadowTraffic.Proofs.Scenario.Bodies

/-! # Which calls gate each other

An intercepted call is nested when another one holds its boundary on the same stack. A stack is made
for a call with a context, for an intercepted call that was started in no frame, or for the thread;
so calls on one stack belong to one logical call, except on the thread's stack. That one is shared
by everything that runs in snapshots taken outside any frame, whatever task took them.
-/

namespace ShadowTraffic.Scenario

namespace Interception

/-- `m` holds the boundary that `n` attempts, on the same stack. -/
def Gates (m n : Interception) : Prop :=
  m.stack = n.stack ∧ n.ticket.policy = .boundary ∧ m.ticket = ⟨n.ticket.boundary, .boundary, true⟩

/-- Both run inside of one call with a context, or `n` was started inside of `m` or inside of a call
that `m` was started inside of. -/
def SameCall (n m : Interception) : Prop :=
  (n.trail.context? ≠ none ∧ n.trail.context? = m.trail.context?) ∨
    ∃ p ∈ n.trail.calls, p = m.number ∨ p ∈ m.trail.calls

/-- In no call with a context, and all in a snapshot that was taken outside any frame. -/
def Detached (n : Interception) : Prop :=
  n.trail.context? = none ∧ n.trail.getLast? = some .snapshot

instance (m n : Interception) : Decidable (m.Gates n) :=
  inferInstanceAs (Decidable (_ ∧ _ ∧ _))

instance (n m : Interception) : Decidable (n.SameCall m) :=
  inferInstanceAs (Decidable (_ ∨ _))

instance (n : Interception) : Decidable n.Detached :=
  inferInstanceAs (Decidable (_ ∧ _))

end Interception

theorem Trail.mem_calls {trail : Trail} {n : Nat} : n ∈ trail.calls ↔ Enclosure.call n ∈ trail := by
  rw [calls, List.mem_filterMap]
  constructor
  · rintro ⟨e, he, hcall⟩
    cases e with
    | call p =>
      cases hcall
      exact he
    | context p => cases hcall
    | snapshot => cases hcall
  · intro hmem
    exact ⟨.call n, hmem, rfl⟩

/-- Calls whose stacks were made for one home run in one logical call, or for the thread. -/
theorem Interception.related_of_home {m n : Interception} (hn : n.trail ≠ [])
    (hhome : Trail.home (.call m.number :: m.trail) = n.trail.home) :
    n.SameCall m ∨ n.Detached ∧ m.Detached := by
  by_cases hm : m.trail = []
  · -- nothing is around m, so its stack was made for itself
    rw [hm] at hhome
    obtain ⟨-, hlast⟩ := Trail.home_eq_call.mp hhome.symm
    exact .inl (.inr ⟨m.number, Trail.mem_calls.mpr (List.mem_of_getLast? hlast), .inl rfl⟩)
  · rw [Trail.home_call hm] at hhome
    cases h : n.trail.home with
    | context c =>
      have hcontext := Trail.home_eq_context.mp h
      have hcontext' := Trail.home_eq_context.mp (hhome.trans h)
      exact .inl (.inl ⟨by rw [hcontext]; nofun, hcontext.trans hcontext'.symm⟩)
    | call p =>
      obtain ⟨-, hlast⟩ := Trail.home_eq_call.mp h
      obtain ⟨-, hlast'⟩ := Trail.home_eq_call.mp (hhome.trans h)
      exact .inl (.inr ⟨p, Trail.mem_calls.mpr (List.mem_of_getLast? hlast),
        .inr (Trail.mem_calls.mpr (List.mem_of_getLast? hlast'))⟩)
    | thread =>
      exact .inr ⟨(Trail.home_eq_thread hn).mp h, (Trail.home_eq_thread hm).mp (hhome.trans h)⟩

namespace Bodies

variable {s : Bodies} {a : BodyAction} {t : BodyStep} {n : Interception}
  {phase : DispatchPhase String String}

/-- What makes a call that was started a nested one. -/
structure Gated (t : BodyStep) (n : Interception) (phase : DispatchPhase String String) : Prop where
  reentrant : phase.Reentrant ↔ ∃ m ∈ calls t.before.live, m.Gates n
  related : ∀ m ∈ calls t.before.live, m.Gates n → n.SameCall m ∨ n.Detached ∧ m.Detached

theorem step_started (ht : s.step a = some t) (hn : t.started = some (n, phase)) :
    t.before = s ∧ ∃ b span x resource, b ∈ s.live ∧
      n = ⟨s.begun, b.trail, (s.world.intercept { frame := b.frame, span } x resource).1.stack,
        (s.world.intercept { frame := b.frame, span } x resource).1.ticket⟩ ∧
      phase = (s.world.intercept { frame := b.frame, span } x resource).1.phase := by
  cases a with
  | task => cases ht; cases hn
  | elsewhere e => cases ht; cases hn
  | withContext b traffic =>
    by_cases hb : b ∈ s.live
    · simp only [step, if_pos hb, Option.some.injEq] at ht
      subst ht
      cases hn
    · simp [step, hb] at ht
  | snapshot b =>
    by_cases hb : b ∈ s.live
    · simp only [step, if_pos hb, Option.some.injEq] at ht
      subst ht
      cases hn
    · simp [step, hb] at ht
  | leave b =>
    by_cases hb : b ∈ s.live
    · simp only [step, if_pos hb, Option.some.injEq] at ht
      subst ht
      cases hn
    · simp [step, hb] at ht
  | intercept b span x resource =>
    by_cases hb : b ∈ s.live
    · simp only [step, if_pos hb, Option.some.injEq] at ht
      subst ht
      simp only [Option.some.injEq, Prod.mk.injEq] at hn
      exact ⟨rfl, b, span, x, resource, hb, hn.1.symm, hn.2.symm⟩
    · simp [step, hb] at ht

/-- An attempt is rejected when a call holds the boundary on the same stack. -/
theorem rejected_iff {scopes : Scopes} {live : List Body} {boundary : String} {policy : Policy}
    (h : Attempts.Accounted { scopes, live := ticketsOn live n.stack })
    (hticket : n.ticket = (scopes.enter boundary policy).1) :
    n.ticket.entered = false ↔ ∃ m ∈ calls live, m.Gates n := by
  have hboundary : n.ticket.boundary = boundary := by rw [hticket]; rfl
  have hpolicy : n.ticket.policy = policy := by rw [hticket]; rfl
  simp only [Interception.Gates, hboundary, hpolicy]
  cases policy with
  | internal =>
    rw [hticket, Scopes.enter_internal rfl]
    simp
  | boundary =>
    have haccepted := h.enter_boundary boundary
    rw [← hticket, mem_ticketsOn] at haccepted
    rw [← Bool.not_eq_true, haccepted, not_not]
    simp

theorem gated_step {owner : StackId → Home} (h : Placed s.world.guard owner s.live)
    (ht : s.step a = some t) (hn : t.started = some (n, phase)) : Gated t n phase := by
  obtain ⟨rfl, b, span, x, resource, hb, rfl, rfl⟩ := step_started ht hn
  have hreentrant := t.before.world.reentrant_intercept { frame := b.frame, span } x resource
  obtain ⟨g, owner', henters⟩ := h.intercept hb t.before.begun span x resource
  generalize t.before.world.intercept { frame := b.frame, span } x resource = result
    at henters hreentrant ⊢
  obtain ⟨call, world⟩ := result
  dsimp only at henters hreentrant ⊢
  have hrejected := rejected_iff (n := ⟨t.before.begun, b.trail, call.stack, call.ticket⟩)
    (henters.placed.accounted call.stack) henters.ticket
  refine ⟨hreentrant.trans hrejected, ?_⟩
  rintro m hm ⟨hstack, -⟩
  dsimp only at hstack
  have htrail : b.trail ≠ [] := fun hempty => henters.alone hempty m hm hstack
  refine Interception.related_of_home htrail ?_
  rw [← (henters.placed.called m hm).2, hstack, henters.home, Trail.home_call htrail]

/-- In every order of what the bodies do, a call is a nested one exactly when another call holds its
boundary on the same stack; and that one runs in the same logical call, unless both run in
snapshots that were taken outside any frame. -/
theorem calls_gated (schedule : List BodyAction) (ht : t ∈ (run {} schedule).transitions)
    (hn : t.started = some (n, phase)) : Gated t n phase := by
  obtain ⟨first, a, rest, -, hstep⟩ := System.run_mem ht
  obtain ⟨owner, h⟩ := placed_run first
  exact gated_step h hstep hn

/-- A call of a message queue, with the boundary policy. -/
def sending : CallArguments where
  service := ⟨0, 0, .boundary⟩
  factory := 0
  config := {}
  boundary := "mq#send"
  policy := .boundary
  substitute := none

/-- A call in a call with a context, and another one in a snapshot taken inside of it. -/
def carriedInside : List BodyAction :=
  [.task, .withContext {} {}, .intercept ⟨some 0, [.context 0], none⟩ none sending none,
    .snapshot ⟨some 0, [.call 1, .context 0], some ⟨1, [.context 0], 1, ⟨"mq#send", .boundary, true⟩⟩⟩,
    .intercept ⟨some 1, [.snapshot, .call 1, .context 0], none⟩ none sending none]

theorem calls_gated_carriedInside :
    ∃ t ∈ (run {} carriedInside).transitions, ∃ n phase, t.started = some (n, phase) ∧
      phase.Reentrant ∧ Gated t n phase := by
  have hmem := List.get_mem (run {} carriedInside).transitions ⟨4, by decide⟩
  exact ⟨_, hmem, _, _, rfl, trivial, calls_gated carriedInside hmem rfl⟩

/-- Two tasks in no frame, each with a call in a snapshot. -/
def detachedPair : List BodyAction :=
  [.task, .snapshot {}, .intercept ⟨some 0, [.snapshot], none⟩ none sending none,
    .task, .snapshot {}, .intercept ⟨some 1, [.snapshot], none⟩ none sending none]

/-- Neither call has anything around it but its snapshot, and yet the first gates the second. -/
theorem unrelated_calls_gated :
    ∃ t ∈ (run {} detachedPair).transitions, ∃ n phase, t.started = some (n, phase) ∧
      phase.Reentrant ∧ n.trail = [.snapshot] ∧
      ∃ m ∈ calls t.before.live, m.trail = [.snapshot] ∧ m.Gates n ∧ ¬ n.SameCall m := by
  refine ⟨(run {} detachedPair).transitions.get ⟨5, by decide⟩, List.get_mem _ _, _, _, rfl, trivial,
    rfl, ⟨0, [.snapshot], 0, ⟨"mq#send", .boundary, true⟩⟩, ?_, rfl, ?_, ?_⟩
  · decide
  · decide
  · decide

end Bodies

end ShadowTraffic.Scenario
