import ShadowTraffic.Proofs.Registry.Later

/-! # Where mediators come from

Only the end of a build fills a slot, and with what that build gave. So every mediator that is
found in a slot can be traced to one transition of the run.
-/

namespace ShadowTraffic

/-! ## Stretches that fill nothing -/

namespace Fetch

variable (r : Registry) (c : CallerId) (q : Request) (fresh : SpanId) (slot k : SlotId)

theorem filling?_attempt : (attempt r c q fresh).registry.filling? k = r.filling? k := by
  have hopen := r.filling?_slotFor q.identity
  rcases attempt_cases r c q fresh with ⟨-, hreg, -⟩ | ⟨hcell, hreg, -⟩ | ⟨_, _, hcell, hreg, -⟩
  · rw [hreg, hopen]
  · have hempty := Registry.filling?_eq_none.mpr (Registry.mediator?_of_vacant hcell)
    rw [hreg, Registry.filling?_setCell hempty, hopen]
    simp
  · have hempty := Registry.filling?_eq_none.mpr (Registry.mediator?_of_building hcell)
    rw [hreg, Registry.filling?_setCell hempty, hopen]
    simp

theorem filling?_settle (constructed : Bool) :
    (settle r c q fresh slot constructed).registry.filling? k = r.filling? k := by
  rcases settle_cases r c q fresh slot constructed with
    ⟨-, hreg, -⟩ | ⟨-, hreg, -⟩ | ⟨-, hreg, -⟩
  · rw [hreg]
  · rw [hreg, filling?_attempt, Registry.filling?_beginClose]
  · rw [hreg, Registry.filling?_beginClose]

theorem filling?_start : (start r c q fresh).registry.filling? k = r.filling? k := by
  rcases start_cases r c q fresh with ⟨_, -, hreg, -⟩ | ⟨-, hattempt⟩
  · rw [hreg]
  · rw [hattempt, filling?_attempt]

theorem filling?_resume : (resume r c q fresh slot).registry.filling? k = r.filling? k := by
  rcases resume_cases r c q fresh slot with ⟨-, hsettle⟩ | ⟨_, -, hreg, -⟩ |
    ⟨_, _, -, -, hreg, -⟩ | ⟨hcell, hreg, -⟩
  · rw [hsettle, filling?_settle]
  · rw [hreg]
  · rw [hreg]
  · have hempty := Registry.filling?_eq_none.mpr (Registry.mediator?_of_vacant hcell)
    rw [hreg, Registry.filling?_setCell hempty]
    simp

theorem filling?_built {r : Registry} {slot : SlotId} (hslot : slot < r.cells.size)
    (span : SpanId) (p : Provision) :
    (built r c q fresh slot span p).registry.filling? k =
      if k = slot then some (q.filling p) else r.filling? k := by
  rw [(built_eq r c q fresh slot span p).1, filling?_settle,
    Registry.filling?_setCell_built hslot]
  rfl

theorem filling?_abandon {r : Registry} {c : CallerId} {phase : FetchPhase}
    (h : ∀ {slot span}, phase = .building slot span → ∃ queue, r.cell slot = .building c queue) :
    (abandon r c phase).registry.filling? k = r.filling? k := by
  rcases abandon_empty h with hreg | ⟨slot, cell, hreg, hempty, hbuilt⟩
  · rw [hreg]
  · rw [hreg, Registry.filling?_setCell (Registry.filling?_eq_none.mpr hempty) hbuilt]

end Fetch

theorem Invalidate.filling?_start (r : Registry) (i : Identity) (k : SlotId) :
    (start r i).registry.filling? k = r.filling? k := by
  rcases start_cases r i with ⟨-, hreg, -⟩ | ⟨slot, -, hreg, -⟩
  · rw [hreg]
  · rw [hreg, Registry.filling?_beginClose, Registry.filling?_remove]

theorem Release.filling?_drain (r : Registry) (count : Nat) (slots : List SlotId) (k : SlotId) :
    (drain r count slots).registry.filling? k = r.filling? k := by
  induction slots generalizing r count with
  | nil => rfl
  | cons slot rest ih =>
    rcases drain_cons r count slot rest with ⟨count', hreg, -⟩ | ⟨hreg, -⟩
    · rw [hreg, ih, Registry.filling?_beginClose]
    · rw [hreg, Registry.filling?_beginClose]

/-! ## Completed builds -/

namespace Transition

/-- The build that a transition completes, with the slot that it fills and what it gave. -/
def completion? (t : Transition) : Option (Request × SlotId × Provision) :=
  match t.before.ongoing t.caller, t.action with
  | some (.fetch q (.building slot _)), .built p => some (q, slot, p)
  | _, _ => none

/-- What a transition fills a slot with. -/
def fills? (t : Transition) (k : SlotId) : Option Mediator :=
  match t.completion? with
  | some (q, slot, p) => if k = slot then some (q.filling p) else none
  | none => none

theorem completion?_eq_some {t : Transition} {q : Request} {slot : SlotId} {p : Provision} :
    t.completion? = some (q, slot, p) ↔
      ∃ span, t.before.ongoing t.caller = some (.fetch q (.building slot span)) ∧
        t.action = .built p := by
  unfold completion?
  split
  next hongoing haction =>
    rw [hongoing, haction]
    simp only [Option.some.injEq, Prod.mk.injEq, Ongoing.fetch.injEq, FetchPhase.building.injEq,
      Action.built.injEq, exists_and_right]
    constructor
    · rintro ⟨rfl, rfl, rfl⟩
      exact ⟨⟨_, rfl, rfl, rfl⟩, rfl⟩
    · rintro ⟨⟨_, rfl, rfl, rfl⟩, rfl⟩
      exact ⟨rfl, rfl, rfl⟩
  next hother =>
    constructor
    · nofun
    · rintro ⟨span, hongoing, haction⟩
      exact absurd haction (hother q slot span p hongoing)

theorem completion?_eq_none {t : Transition} (h : ∀ p, t.action ≠ .built p) :
    t.completion? = none := by
  unfold completion?
  split
  next p _ haction => exact absurd haction (h p)
  next => rfl

theorem fills?_eq_some {t : Transition} {k : SlotId} {m : Mediator} :
    t.fills? k = some m ↔ ∃ q p, t.completion? = some (q, k, p) ∧ q.filling p = m := by
  unfold fills?
  cases hcompletion : t.completion? with
  | none => simp
  | some completed =>
    obtain ⟨q, slot, p⟩ := completed
    by_cases hk : k = slot
    · subst hk
      simp [and_assoc]
    · simp [hk, Ne.symm hk]

end Transition

/-! ## Transitions and runs -/

namespace Shared

variable {s : Shared} {held : List SlotId} {c : CallerId} {a : Action} {t : Transition}

theorem Takes.filling?_eq {st : Stretch Outcome} (h : s.Sound held) (ht : Takes s c a st)
    (ha : ∀ p, a ≠ .built p) (k : SlotId) : st.registry.filling? k = s.registry.filling? k := by
  cases ht with
  | fetch q idle => exact Fetch.filling?_start _ c q s.spans k
  | lookup i idle => rfl
  | invalidate i idle => exact Invalidate.filling?_start _ i k
  | release idle => exact Release.filling?_drain { s.registry with slots := .empty } 0 _ k
  | @resume q slot here => exact Fetch.filling?_resume _ c q s.spans slot k
  | built p here => exact absurd rfl (ha p)
  | @closed q slot m failure here => exact Fetch.filling?_attempt _ c q s.spans k
  | abandon here => exact Fetch.filling?_abandon k fun hphase => h.building (hphase ▸ here)
  | invalidated failure here => rfl
  | abandonInvalidation here => rfl
  | @released m rest count failure here => exact Release.filling?_drain _ count rest k
  | abandonRelease here => rfl

/-- A slot is filled as before, unless the transition fills it. -/
theorem Sound.filling?_step (h : s.Sound held) (ht : s.step c a = some t) (k : SlotId) :
    t.after.registry.filling? k = (t.fills? k).or (s.registry.filling? k) := by
  obtain ⟨rfl, rfl, rfl, st, htakes, -, hafter⟩ := step_spec ht
  rw [hafter]
  show st.registry.filling? k = _
  by_cases hbuilt : ∃ p, t.action = .built p
  · obtain ⟨p, hp⟩ := hbuilt
    rw [hp] at htakes
    cases htakes with
    | @built q slot span p here =>
      have hcompletion : t.completion? = some (q, slot, p) :=
        Transition.completion?_eq_some.mpr ⟨span, here, hp⟩
      have hslot := (h.working here rfl).1
      refine (Fetch.filling?_built t.caller q t.before.spans k hslot span p).trans ?_
      by_cases hk : k = slot
      · simp [Transition.fills?, hcompletion, hk]
      · simp [Transition.fills?, hcompletion, hk]
  · have hnone := Transition.completion?_eq_none fun p hp => hbuilt ⟨p, hp⟩
    rw [htakes.filling?_eq h (fun p hp => hbuilt ⟨p, hp⟩) k]
    simp [Transition.fills?, hnone]

/-- What a slot is filled with has been there all the time or was built in the run. -/
theorem Sound.filling?_run (h : s.Sound held) (schedule : Schedule) {k : SlotId} {m : Mediator}
    (hm : (s.run schedule).final.registry.filling? k = some m) :
    s.registry.filling? k = some m ∨
      ∃ t ∈ (s.run schedule).transitions, t.fills? k = some m := by
  refine System.run_origin (I := fun s : Shared => ∃ held, s.Sound held)
    (P := fun s : Shared => s.registry.filling? k = some m) ?_ ?_ ⟨held, h⟩ schedule hm
  · rintro s e t ⟨held, h⟩ ht
    exact ⟨_, h.step ht⟩
  · rintro s e t ⟨held, h⟩ ht hafter
    change t.after.registry.filling? k = some m at hafter
    rw [h.filling?_step ht, Option.or_eq_some_iff] at hafter
    rcases hafter with hfills | ⟨-, hbefore⟩
    · exact .inr hfills
    · exact .inl hbefore

end Shared

end ShadowTraffic
