import ShadowTraffic.Proofs.Registry.Matching

/-! # Identities are independent

Of a run, the steps that concern one identity are a run of their own: everything that is asked,
looked up, invalidated, built or closed for other identities may be left out, and the releases stay
with the entries of the identity. The callers stand at the same points there, and are given the
same; only slots and spans are numbered apart. Nor does another identity stand in the way: what can
be done for the identity in the run of its own can be done in the whole run, unless the very caller
is engaged elsewhere.
-/

namespace ShadowTraffic

namespace Interleaved

/-- By steps of its own that do not concern the identity, a caller comes to an action that does. -/
def Ready (i : Identity) (owned : List SlotId) (s s' : Interleaved) (c : CallerId) (a : Action) :
    Prop :=
  ∃ steps : List Action, (∀ b ∈ steps, b = .resume ∨ b = .closed none) ∧
    (∀ u ∈ (s.run (steps.map (c, ·))).transitions, u.concerns i = false) ∧
    Alike i owned (s.run (steps.map (c, ·))).final s' ∧
    ∃ t, (s.run (steps.map (c, ·))).final.step c a = some t ∧ t.concerns i = true

variable {i : Identity} {owned : List SlotId} {s s' : Interleaved} {c : CallerId} {a : Action}

/-! ## Nothing stands in the way -/

namespace Alike

theorem ready_of_takes {st : Stretch Outcome} (h : Alike i owned s s') (hst : Takes s c a st)
    (hconcerns : concerns i (s.underway c) a = true) : Ready i owned s s' c a :=
  ⟨[], by simp, by simp [run, System.run], h, _, hst.step_eq, hconcerns⟩

theorem ready_later {b : Action} {st : Stretch Outcome} (h : Alike i owned s s')
    (hst : Takes s c b st) (hb : b = .resume ∨ b = .closed none)
    (hother : concerns i (s.underway c) b = false)
    (hready : Alike i owned (s.afterStretch c b st) s' →
      Ready i owned (s.afterStretch c b st) s' c a) : Ready i owned s s' c a := by
  have hstep := hst.step_eq
  obtain ⟨steps, hsteps, hquiet, halike, t, ht, hconcerns⟩ := hready (h.step_other hstep hother)
  refine ⟨b :: steps, ?_, ?_, ?_, t, ?_, hconcerns⟩
  · intro b' hb'
    rcases List.mem_cons.mp hb' with rfl | hb'
    · exact hb
    · exact hsteps b' hb'
  · rw [List.map_cons, run_cons_some hstep]
    intro u hu
    rcases List.mem_cons.mp hu with rfl | hu
    · exact hother
    · exact hquiet u hu
  · rw [List.map_cons, run_cons_some hstep]
    exact halike
  · rw [List.map_cons, run_cons_some hstep]
    exact ht

/-- A release comes to the entry of the identity, or to its end. -/
theorem ready_release {rest : List (String × SlotId)} {count : Nat} (h : Alike i owned s s')
    (here : s.underway c = some (.release rest count)) : Ready i owned s s' c .resume := by
  induction rest generalizing s count with
  | nil =>
    apply h.ready_of_takes (.next here)
    rw [here]
    rfl
  | cons e rest ih =>
    by_cases hkey : e.1 = i.key
    · apply h.ready_of_takes (.next here)
      rw [here]
      exact decide_eq_true hkey
    · apply h.ready_later (.next here) (.inl rfl)
      · rw [here]
        exact decide_eq_false hkey
      · intro hafter
        obtain ⟨-, hout⟩ := nextEntry_cons s.registry count e rest
        have hunderway (o : Underway)
            (ho : (nextEntry s.registry count (e :: rest)).outcome = .suspended o) :
            (s.afterStretch c .resume (nextEntry s.registry count (e :: rest))).underway c =
              some o := by
          simp [afterStretch, ho, Outcome.underway?]
        cases hwaits : (s.registry.beginClose e.2).1.waits? with
        | none =>
          rw [hwaits] at hout
          exact ih hafter (hunderway _ hout)
        | some m =>
          rw [hwaits] at hout
          have hclosing := hunderway _ hout
          apply hafter.ready_later (.released none hclosing) (.inr rfl)
          · rw [hclosing]
            exact decide_eq_false hkey
          · intro hafter'
            exact ih hafter' (Function.update_self _ _ _)

/-- What a caller can do for the identity in its own run it comes to do in the whole run, unless it
is engaged elsewhere. -/
theorem ready {t' : Transition} (h : Alike i owned s s') (ht' : s'.step c a = some t')
    (hconcerns : t'.concerns i = true) (hfree : elsewhere i (s.underway c) = false) :
    Ready i owned s s' c a := by
  obtain ⟨hbefore, hcaller, haction, st, htakes, -⟩ := step_spec ht'
  rw [Transition.concerns, hbefore, hcaller, haction] at hconcerns
  have hc := h.callers c
  generalize hu : s.underway c = o at hc hfree
  cases htakes with
  | fetch q idle =>
    rw [idle] at hc hconcerns
    rw [hc.idle_of_free hfree] at hu
    exact h.ready_of_takes (.fetch q hu) (hu ▸ hconcerns)
  | lookup j idle =>
    rw [idle] at hc hconcerns
    rw [hc.idle_of_free hfree] at hu
    exact h.ready_of_takes (.lookup j hu) (hu ▸ hconcerns)
  | invalidate j idle =>
    rw [idle] at hc hconcerns
    rw [hc.idle_of_free hfree] at hu
    exact h.ready_of_takes (.invalidate j hu) (hu ▸ hconcerns)
  | release idle =>
    rw [idle] at hc hconcerns
    rw [hc.idle_of_free hfree] at hu
    exact h.ready_of_takes (.release hu) (hu ▸ hconcerns)
  | resume here =>
    rw [here] at hc hconcerns
    cases hc with
    | fetch hq hphase =>
      cases hphase with
      | waiting hn => exact h.ready_of_takes (.resume hu) (hu ▸ hconcerns)
  | built p here =>
    rw [here] at hc hconcerns
    cases hc with
    | fetch hq hphase =>
      cases hphase with
      | building hn span => exact h.ready_of_takes (.built p hu) (hu ▸ hconcerns)
  | closed failure here =>
    rw [here] at hc hconcerns
    cases hc with
    | fetch hq hphase =>
      cases hphase with
      | closing hn m => exact h.ready_of_takes (.closed failure hu) (hu ▸ hconcerns)
  | abandon here =>
    rw [here] at hc hconcerns
    cases hc with
    | fetch hq hphase => exact h.ready_of_takes (.abandon hu) (hu ▸ hconcerns)
  | invalidated failure here =>
    rw [here] at hc hconcerns
    cases hc with
    | invalidation m => exact h.ready_of_takes (.invalidated failure hu) (hu ▸ hconcerns)
  | abandonInvalidation here =>
    rw [here] at hc hconcerns
    cases hc with
    | invalidation m => exact h.ready_of_takes (.abandonInvalidation hu) (hu ▸ hconcerns)
  | next here =>
    rw [here] at hc
    cases hc with
    | release hrest => exact h.ready_release hu
    | closingOther hkey =>
      -- the shadow of another identity closes before
      apply h.ready_later (.released none hu) (.inr rfl)
      · rw [hu]
        exact decide_eq_false hkey
      · intro hafter
        exact hafter.ready_release (Function.update_self _ _ _)
  | released failure here =>
    rw [here] at hc
    cases hc with
    | closing hn =>
      apply h.ready_of_takes (.released failure hu)
      rw [hu]
      exact decide_eq_true rfl
  | abandonRelease here =>
    rw [here] at hc
    cases hc with
    | release hrest =>
      apply h.ready_of_takes (.abandonRelease hu)
      simp [hu, concerns]
    | closingOther hkey =>
      apply h.ready_of_takes (.abandonClosing hu)
      simp [hu, concerns]
  | abandonClosing here =>
    rw [here] at hc
    cases hc with
    | closing hn =>
      apply h.ready_of_takes (.abandonClosing hu)
      simp [hu, concerns]

/-- A caller that is engaged elsewhere apart, whatever can be done for the identity in its own run
can be done in the whole run, once the caller has done with other entries of its release. -/
theorem unblocked {t' : Transition} (h : Alike i owned s s') (ht' : s'.step c a = some t')
    (hconcerns : t'.concerns i = true) (hfree : elsewhere i (s.underway c) = false) :
    ∃ steps : List Action, (∀ b ∈ steps, b = .resume ∨ b = .closed none) ∧
      (∀ u ∈ (s.run (steps.map (c, ·))).transitions, u.concerns i = false) ∧
      ∃ t slots, owned <+: slots ∧ (s.run (steps.map (c, ·))).final.step c a = some t ∧
        t.Like i slots t' := by
  obtain ⟨steps, hsteps, hquiet, halike, t, ht, hconcerns⟩ := h.ready ht' hconcerns hfree
  obtain ⟨slots, t₁, ht₁, hlonger, -, hlike⟩ := halike.step_own ht hconcerns
  obtain ⟨-, hcaller, haction, -⟩ := step_spec ht
  have hsame : t₁ = t' := by
    rw [hcaller, haction, ht'] at ht₁
    exact (Option.some.inj ht₁).symm
  subst hsame
  exact ⟨steps, hsteps, hquiet, t, slots, hlonger, ht, hlike⟩

end Alike

/-! ## Runs -/

/-- The second run is what there is of the first for the identity alone: step by step the same, and
going on in the same ways. -/
structure Independent (i : Identity) (slots : List SlotId)
    (whole alone : Run Interleaved Transition) : Prop where
  stepwise : List.Forall₂ (Transition.Like i slots)
    (whole.transitions.filter (·.concerns i)) alone.transitions
  alike : Alike i slots whole.final alone.final
  /-- Only a caller that is engaged for another identity has to come back from there. A release
  that has entries of others to do goes on, and for the entry of the identity it waits for no
  build. -/
  unblocked : ∀ {c a t'}, alone.final.step c a = some t' → t'.concerns i = true →
    elsewhere i (whole.final.underway c) = false →
    ∃ steps : List Action, (∀ b ∈ steps, b = .resume ∨ b = .closed none) ∧
      (∀ u ∈ (whole.final.run (steps.map (c, ·))).transitions, u.concerns i = false) ∧
      ∃ t slots₁, slots <+: slots₁ ∧
        (whole.final.run (steps.map (c, ·))).final.step c a = some t ∧ t.Like i slots₁ t'

/-- The schedule of some steps of a run. -/
def eventsOf (transitions : List Transition) : Schedule :=
  transitions.map fun t => (t.caller, t.action)

theorem Alike.run (h : Alike i owned s s') (schedule : Schedule) :
    ∃ slots, owned <+: slots ∧ Independent i slots (s.run schedule)
      (s'.run (eventsOf ((s.run schedule).transitions.filter (·.concerns i)))) := by
  induction schedule generalizing s s' owned with
  | nil => exact ⟨owned, List.prefix_refl owned, .nil, h, h.unblocked⟩
  | cons e schedule ih =>
    cases hstep : s.step e.1 e.2 with
    | none =>
      rw [run_cons_none hstep]
      exact ih h
    | some t =>
      rw [run_cons_some hstep]
      by_cases hconcerns : t.concerns i = true
      · obtain ⟨owned₁, t', ht', hlonger, halike, hlike⟩ := h.step_own hstep hconcerns
        obtain ⟨slots, hslots, hrest⟩ := ih halike
        refine ⟨slots, hlonger.trans hslots, ?_⟩
        rw [List.filter_cons_of_pos hconcerns, eventsOf, List.map_cons, run_cons_some ht']
        constructor
        case stepwise =>
          rw [List.filter_cons_of_pos hconcerns]
          exact .cons (hlike.mono hslots) hrest.stepwise
        case alike => exact hrest.alike
        case unblocked => exact hrest.unblocked
      · have hafter := h.step_other hstep (Bool.eq_false_iff.mpr hconcerns)
        obtain ⟨slots, hslots, hrest⟩ := ih hafter
        refine ⟨slots, hslots, ?_⟩
        rw [List.filter_cons_of_neg hconcerns]
        constructor
        case stepwise =>
          rw [List.filter_cons_of_neg hconcerns]
          exact hrest.stepwise
        case alike => exact hrest.alike
        case unblocked => exact hrest.unblocked

-- a build that does not end, and what the other identity is left with
example :
    let i : Identity := ⟨"a", "", "", "", ""⟩
    let j : Identity := ⟨"b", "", "", "", ""⟩
    let ts := (({} : Interleaved).run
      [(0, .fetch ⟨j, {}, "x"⟩), (1, .fetch ⟨i, {}, "y"⟩), (2, .release), (1, .built (.ok none)),
        (2, .resume), (1, .built (.ok none)), (2, .resume), (2, .resume)]).transitions
    let alone := ({} : Interleaved).run (eventsOf (ts.filter (·.concerns i)))
    ts.map (·.concerns i) = [false, true, true, true, true, true, false, true] ∧
      ts.filterMap (·.answer?) = [(1, .fetched ⟨i, {}, "y"⟩ 2), (2, .released 0)] ∧
      alone.transitions.filterMap (·.answer?) =
        [(1, .fetched ⟨i, {}, "y"⟩ 1), (2, .released 0)] := by
  decide

end Interleaved

end ShadowTraffic
