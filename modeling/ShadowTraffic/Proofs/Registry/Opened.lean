import Mathlib.Data.List.Nodup
import ShadowTraffic.Proofs.Registry.Accounts
import ShadowTraffic.Proofs.Registry.Gathering

/-! # Slots opened for an identity

A slot is opened for an identity only where there was none or where the one before was taken away.
Whoever asks for the identity waits or builds in such a slot, and no slot is filled twice. So no
more builds are completed for an identity than its entry was taken out of the map, and one.
-/

namespace ShadowTraffic

/-! ## Where a fetch comes to wait or build -/

namespace Fetch

variable {r : Registry} {c : CallerId} {q : Request} {fresh : SpanId} {slot k : SlotId}
  {phase : FetchPhase}

/-- A slot that a fetch comes to wait for or to build in is the one in the map. -/
theorem slot?_attempt (h : (attempt r c q fresh).outcome = .pending phase)
    (hk : phase.slot? = some k) : (attempt r c q fresh).registry.slot? q.identity = some k := by
  obtain ⟨slot, hslot, hphase⟩ := at_attempt c fresh r q phase h
  rw [← hk, hphase]
  exact hslot

theorem slot?_settle {constructed : Bool}
    (h : (settle r c q fresh slot constructed).outcome = .pending phase)
    (hk : phase.slot? = some k) :
    (settle r c q fresh slot constructed).registry.slot? q.identity = some k := by
  rcases settle_cases r c q fresh slot constructed with
    ⟨-, -, hout⟩ | ⟨-, hreg, hout⟩ | ⟨-, -, m, hout⟩
  · rw [hout] at h
    cases h
  · rw [hreg]
    exact slot?_attempt (hout.symm.trans h) hk
  · rw [hout] at h
    cases h
    cases hk

theorem slot?_built {span : SpanId} {p : Provision}
    (h : (built r c q fresh slot span p).outcome = .pending phase) (hk : phase.slot? = some k) :
    (built r c q fresh slot span p).registry.slot? q.identity = some k := by
  obtain ⟨hreg, hout⟩ := built_eq r c q fresh slot span p
  rw [hreg]
  rw [hout] at h
  exact slot?_settle h hk

theorem slot?_start (h : (start r c q fresh).outcome = .pending phase)
    (hk : phase.slot? = some k) : (start r c q fresh).registry.slot? q.identity = some k := by
  obtain ⟨slot, hslot, hphase⟩ := at_start c fresh r q phase h
  rw [← hk, hphase]
  exact hslot

theorem slot?_resume (h : (resume r c q fresh slot).outcome = .pending phase)
    (hk : phase.slot? = some k) :
    k = slot ∨ (resume r c q fresh slot).registry.slot? q.identity = some k := by
  rcases resume_cases r c q fresh slot with ⟨-, hsettle⟩ | ⟨_, -, -, hout⟩ |
    ⟨_, _, -, -, -, hout⟩ | ⟨-, -, hout⟩
  · rw [hsettle] at h ⊢
    exact .inr (slot?_settle h hk)
  · rw [hout] at h
    cases h
    exact .inl (Option.some.inj hk).symm
  · rw [hout] at h
    cases h
    exact .inl (Option.some.inj hk).symm
  · rw [hout] at h
    cases h
    exact .inl (Option.some.inj hk).symm

end Fetch

namespace Transition

/-- The slot that a transition opens for an identity. -/
def opened? (i : Identity) (t : Transition) : Option SlotId :=
  (t.after.registry.slot? i).filter fun slot => t.before.registry.slot? i ≠ some slot

/-- The slot of the identity whose build a transition completes. -/
def completed? (i : Identity) (t : Transition) : Option SlotId :=
  (t.completion?.filter fun completed => completed.1.identity = i).map fun completed =>
    completed.2.1

theorem opened?_eq_some {i : Identity} {t : Transition} {slot : SlotId} :
    t.opened? i = some slot ↔
      t.after.registry.slot? i = some slot ∧ t.before.registry.slot? i ≠ some slot := by
  simp [opened?, Option.filter_eq_some_iff]

theorem completed?_eq_some {i : Identity} {t : Transition} {slot : SlotId} :
    t.completed? i = some slot ↔ ∃ q p, t.completion? = some (q, slot, p) ∧ q.identity = i := by
  simp only [completed?, Option.map_eq_some_iff, Option.filter_eq_some_iff, decide_eq_true_eq]
  constructor
  · intro ⟨⟨q, slot', p⟩, ⟨hcompletion, hq⟩, hslot⟩
    exact ⟨q, p, hslot ▸ hcompletion, hq⟩
  · intro ⟨q, p, hcompletion, hq⟩
    exact ⟨_, ⟨hcompletion, hq⟩, rfl⟩

theorem isSome_completed? (i : Identity) (t : Transition) :
    (t.completed? i).isSome = t.completes i := by
  rw [completed?, Option.isSome_map, completes]
  cases t.completion? with
  | none => rfl
  | some completed => by_cases h : completed.1.identity = i <;> simp [h]

/-- A slot is opened where there was none, or where the one before is taken away. -/
theorem opened_add (i : Identity) (t : Transition) :
    (t.opened? i).isSome.toNat + (t.before.registry.slot? i).isSome.toNat =
      (decide (t.Removes i)).toNat + (t.after.registry.slot? i).isSome.toNat := by
  cases hafter : t.after.registry.slot? i with
  | none =>
    cases hbefore : t.before.registry.slot? i with
    | none => simp [opened?, Removes, hbefore, hafter]
    | some slot => simp [opened?, Removes, hbefore, hafter]
  | some slot' =>
    cases hbefore : t.before.registry.slot? i with
    | none => simp [opened?, Removes, hbefore, hafter]
    | some slot =>
      by_cases h : slot = slot'
      · simp [opened?, Removes, hbefore, hafter, h]
      · simp [opened?, Removes, hbefore, hafter, h, Ne.symm h]

end Transition

namespace Shared

variable {s : Shared} {held : List SlotId} {c : CallerId} {a : Action} {t : Transition}
  {i : Identity}

theorem opened_run (s : Shared) (i : Identity) (schedule : Schedule) :
    ((s.run schedule).transitions.filterMap (·.opened? i)).length +
        (s.registry.slot? i).isSome.toNat =
      (s.run schedule).transitions.countP (·.Removes i) +
        ((s.run schedule).final.registry.slot? i).isSome.toNat := by
  induction schedule generalizing s with
  | nil => exact (Nat.zero_add _).trans (Nat.zero_add _).symm
  | cons e schedule ih =>
    cases hstep : s.step e.1 e.2 with
    | none =>
      rw [run_cons_none hstep]
      exact ih s
    | some t =>
      have hone := t.opened_add i
      have hrest := ih t.after
      rw [(step_spec hstep).1] at hone
      rw [run_cons_some hstep, List.filterMap_cons, countP_cons_toNat]
      cases hopened : t.opened? i with
      | none =>
        rw [hopened, Option.isSome_none, Bool.toNat_false] at hone
        dsimp only
        omega
      | some slot =>
        rw [hopened, Option.isSome_some, Bool.toNat_true] at hone
        dsimp only
        rw [List.length_cons]
        omega

/-- The slot is the identity's in the map, or some fetch for it waits or builds there. -/
def UsedFor (i : Identity) (slot : SlotId) (s : Shared) : Prop :=
  s.registry.slot? i = some slot ∨ ∃ c q phase,
    s.ongoing c = some (.fetch q phase) ∧ phase.slot? = some slot ∧ q.identity = i

theorem usedFor_takes {st : Stretch Outcome} (ht : Takes s c a st) {q : Request}
    {phase : FetchPhase} {slot : SlotId} (hout : st.outcome.ongoing? = some (.fetch q phase))
    (hslot : phase.slot? = some slot) :
    st.registry.slot? q.identity = some slot ∨ UsedFor q.identity slot s := by
  cases ht with
  | fetch q' idle =>
    obtain ⟨rfl, hphase⟩ := Outcome.ofFetch_ongoing? hout
    exact .inl (Fetch.slot?_start hphase hslot)
  | @resume q' slot' here =>
    obtain ⟨rfl, hphase⟩ := Outcome.ofFetch_ongoing? hout
    rcases Fetch.slot?_resume hphase hslot with rfl | hled
    · exact .inr (.inr ⟨c, q, _, here, rfl, rfl⟩)
    · exact .inl hled
  | @built q' slot' span p here =>
    obtain ⟨rfl, hphase⟩ := Outcome.ofFetch_ongoing? hout
    exact .inl (Fetch.slot?_built hphase hslot)
  | @closed q' slot' m failure here =>
    obtain ⟨rfl, hphase⟩ := Outcome.ofFetch_ongoing? hout
    exact .inl (Fetch.slot?_attempt hphase hslot)
  | lookup j idle => cases hout
  | abandon here => cases hout
  | abandonInvalidation here => cases hout
  | abandonRelease here => cases hout
  | invalidate j idle => exact absurd hout Outcome.ofInvalidate_ongoing?
  | invalidated failure here => cases hout
  | release idle => exact absurd hout Outcome.ofRelease_ongoing?
  | released failure here => exact absurd hout Outcome.ofRelease_ongoing?

theorem usedFor_step (ht : s.step c a = some t) {slot : SlotId} (h : UsedFor i slot t.after) :
    UsedFor i slot s ∨ t.opened? i = some slot := by
  obtain ⟨hbefore, -, -, st, htakes, -, hafter⟩ := step_spec ht
  have hled (hslot : t.after.registry.slot? i = some slot) :
      UsedFor i slot s ∨ t.opened? i = some slot := by
    by_cases hwas : s.registry.slot? i = some slot
    · exact .inl (.inl hwas)
    · exact .inr (Transition.opened?_eq_some.mpr ⟨hslot, hbefore ▸ hwas⟩)
  rcases h with hslot | ⟨d, q, phase, hd, hphase, rfl⟩
  · exact hled hslot
  · by_cases hdc : d = c
    · subst hdc
      have hout : st.outcome.ongoing? = some (.fetch q phase) := by
        simpa [hafter, afterStretch] using hd
      rcases usedFor_takes htakes hout hphase with hslot | hused
      · exact hled (by rw [hafter]; exact hslot)
      · exact .inl hused
    · rw [step_ongoing ht hdc] at hd
      exact .inl (.inr ⟨d, q, phase, hd, hphase, rfl⟩)

/-- A slot in which a build for an identity is completed was opened for it. -/
theorem opened_of_completed {schedule : Schedule} {t : Transition} {slot : SlotId}
    (ht : t ∈ (({} : Shared).run schedule).transitions) (hslot : t.completed? i = some slot) :
    ∃ u ∈ (({} : Shared).run schedule).transitions, u.opened? i = some slot := by
  obtain ⟨q, p, hcompletion, hq⟩ := Transition.completed?_eq_some.mp hslot
  obtain ⟨span, hongoing, -⟩ := Transition.completion?_eq_some.mp hcompletion
  obtain ⟨first, e, rest, rfl, hstep⟩ := run_mem ht
  rw [(step_spec hstep).1] at hongoing
  have hused : UsedFor i slot (({} : Shared).run first).final :=
    .inr ⟨t.caller, q, _, hongoing, rfl, hq⟩
  have horigin : UsedFor i slot {} ∨
      ∃ u ∈ (({} : Shared).run first).transitions, u.opened? i = some slot :=
    System.run_origin (I := fun _ => True) (fun _ _ => trivial)
      (fun _ hstep => usedFor_step hstep) trivial first hused
  rcases horigin with hinitial | ⟨u, hu, hopened⟩
  · rcases hinitial with hslot | ⟨c, q, phase, hc, -⟩
    · cases hslot
    · cases hc
  · rw [run_append]
    exact ⟨u, List.mem_append_left _ hu, hopened⟩

/-- No slot is filled twice. -/
theorem Sound.nodup_completed (h : s.Sound held) (i : Identity) (schedule : Schedule) :
    ((s.run schedule).transitions.filterMap (·.completed? i)).Nodup ∧
      ∀ slot ∈ (s.run schedule).transitions.filterMap (·.completed? i),
        s.registry.filling? slot = none := by
  induction schedule generalizing s held with
  | nil => exact ⟨List.nodup_nil, nofun⟩
  | cons e schedule ih =>
    cases hstep : s.step e.1 e.2 with
    | none =>
      rw [run_cons_none hstep]
      exact ih h
    | some t =>
      obtain ⟨hnodup, hempty⟩ := ih (h.step hstep)
      have hbefore : ∀ slot, t.after.registry.filling? slot = none →
          s.registry.filling? slot = none := by
        intro slot hnone
        cases hfilling : s.registry.filling? slot with
        | none => rfl
        | some m =>
          rw [(h.later_step hstep).filling hfilling] at hnone
          cases hnone
      rw [run_cons_some hstep, List.filterMap_cons]
      cases hcompleted : t.completed? i with
      | none => exact ⟨hnodup, fun slot hslot => hbefore slot (hempty slot hslot)⟩
      | some slot =>
        obtain ⟨q, p, hcompletion, -⟩ := Transition.completed?_eq_some.mp hcompleted
        obtain ⟨hnot, hinsert⟩ := h.filled_of_completion hstep hcompletion
        have hfilled : t.after.registry.filling? slot ≠ none := by
          intro hnone
          have hmem : slot ∈ t.after.registry.filled := hinsert ▸ Finset.mem_insert_self _ _
          rw [Registry.mem_filled, hnone] at hmem
          cases hmem
        constructor
        · exact List.nodup_cons.mpr ⟨fun hmem => hfilled (hempty slot hmem), hnodup⟩
        · intro other hother
          rcases List.mem_cons.mp hother with rfl | hmem
          · rwa [Registry.mem_filled, Bool.not_eq_true, Option.isSome_eq_false_iff,
              Option.isNone_iff_eq_none] at hnot
          · exact hbefore other (hempty other hmem)

theorem completed_le (schedule : Schedule) (i : Identity) :
    (({} : Shared).run schedule).transitions.countP (·.completes i) ≤
      (({} : Shared).run schedule).transitions.countP (·.Removes i) + 1 := by
  have hlength : (({} : Shared).run schedule).transitions.countP (·.completes i) =
      ((({} : Shared).run schedule).transitions.filterMap (·.completed? i)).length := by
    rw [List.length_filterMap_eq_countP]
    exact List.countP_congr fun t _ => by rw [Transition.isSome_completed?]
  have hsub : (({} : Shared).run schedule).transitions.filterMap (·.completed? i) ⊆
      (({} : Shared).run schedule).transitions.filterMap (·.opened? i) := by
    intro slot hslot
    obtain ⟨t, ht, hcompleted⟩ := List.mem_filterMap.mp hslot
    exact List.mem_filterMap.mpr (opened_of_completed ht hcompleted)
  have hle := ((Sound.initial.nodup_completed i schedule).1.subperm hsub).length_le
  have hopened := opened_run {} i schedule
  have hone := Bool.toNat_le ((({} : Shared).run schedule).final.registry.slot? i).isSome
  omega

end Shared

end ShadowTraffic
