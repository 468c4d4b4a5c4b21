import ShadowTraffic.Proofs.Registry.Answers

/-! # No live shadow out of reach

As long as no release goes away in the middle, every mediator that is not released is in the map
or before a release under way, whichever callers built it, waited for it or went away, and nobody
is handed an orphan.
-/

namespace ShadowTraffic

/-- A release that went away in the middle. -/
def Outcome.cutsRelease : Outcome → Bool
  | .abandoned (.release ..) => true
  | _ => false

/-- The caller's release is suspended and has the slot before it. -/
def Shared.Draining (s : Shared) (c : CallerId) (slot : SlotId) : Prop :=
  ∃ m rest count, s.ongoing c = some (.release m rest count) ∧ slot ∈ rest

/-- What the slot holds has been closed, or is being closed. -/
def Registry.Closed (r : Registry) (slot : SlotId) : Prop :=
  ∃ m, r.mediator? slot = some m ∧ m.released = true

/-! ## Drained slots -/

/-- A drain closes what its slots hold, up to those that it still has before it. -/
theorem Release.drain_closes {r : Registry} {slots : List SlotId} {slot : SlotId} {m : Mediator}
    (hslot : slot ∈ slots) (hm : r.mediator? slot = some m) (count : Nat) :
    (drain r count slots).registry.Closed slot ∨
      ∃ m' rest count', (drain r count slots).outcome = .closing m' rest count' ∧
        slot ∈ rest := by
  induction slots generalizing r count m with
  | nil => cases hslot
  | cons first rest ih =>
    have hlater := Registry.Later.beginClose r first
    rcases List.mem_cons.mp hslot with rfl | hrest
    · -- its own turn has come, and nothing lowers its flag afterwards
      have hclosed : (r.beginClose slot).2.Closed slot := by
        rcases r.beginClose_cases slot with ⟨hsame, hreleased⟩ | hmark
        · rw [hsame]
          exact ⟨m, hm, hreleased m hm⟩
        · rw [hmark]
          exact ⟨{ m with released := true }, by simp [Registry.mediator?_markReleased, hm], rfl⟩
      obtain ⟨m', hm', hreleased⟩ := hclosed
      rcases drain_cons r count slot rest with ⟨count', hreg, -⟩ | ⟨hreg, -⟩
      · rw [hreg]
        exact .inl ((Registry.Later.drain _ count' rest).released hm' hreleased)
      · rw [hreg]
        exact .inl ⟨m', hm', hreleased⟩
    · rcases drain_cons r count first rest with ⟨count', hreg, hout⟩ | ⟨-, m', hout⟩
      · rw [hreg, hout]
        rcases hlater.kept hm with hm' | hm'
        · exact ih hrest hm' count'
        · exact ih hrest hm' count'
      · exact .inr ⟨m', rest, count + 1, hout, hrest⟩

namespace Shared

variable {s : Shared} {held : List SlotId} {c d : CallerId} {a : Action} {t : Transition}

/-- A slot before a release stays before it until it is closed. -/
theorem Draining.step {slot : SlotId} {m : Mediator} (h : s.Draining d slot)
    (hm : s.registry.mediator? slot = some m) (ht : s.step c a = some t)
    (hends : t.outcome.cutsRelease = false) :
    t.after.Draining d slot ∨ t.after.registry.Closed slot := by
  obtain ⟨m', rest, count, hd, hslot⟩ := h
  obtain ⟨-, -, -, st, htakes, hout, hafter⟩ := step_spec ht
  rw [hafter]
  by_cases hdc : d = c
  · subst hdc
    cases htakes
    case released failure here =>
      rw [hd] at here
      cases here
      obtain ⟨hreg, hdrain⟩ := Release.closed_eq s.registry m' rest count failure
      have hcloses := Release.drain_closes hslot hm count
      rcases hcloses with hclosed | ⟨m'', rest', count', ho, hrest⟩
      · exact .inr (by simpa [afterStretch, Stretch.map, hreg] using hclosed)
      · refine .inl ⟨m'', rest', count', ?_, hrest⟩
        simp [afterStretch, Stretch.map, hdrain, ho, Outcome.ofRelease, Outcome.ongoing?]
    case abandonRelease here => simp [hout, Outcome.cutsRelease] at hends
    -- nothing else fits where a release is suspended
    all_goals simp_all
  · exact .inl ⟨m', rest, count, by simpa [afterStretch, hdc] using hd, hslot⟩

theorem Draining.run {slot : SlotId} {m : Mediator} (hs : s.Sound held) (h : s.Draining d slot)
    (hm : s.registry.mediator? slot = some m) (schedule : Schedule)
    (hends : ∀ t ∈ (s.run schedule).transitions, t.outcome.cutsRelease = false) :
    (s.run schedule).final.Draining d slot ∨ (s.run schedule).final.registry.Closed slot := by
  induction schedule generalizing s held m with
  | nil => exact .inl h
  | cons e schedule ih =>
    obtain ⟨c, a⟩ := e
    cases hstep : s.step c a with
    | none =>
      rw [run_cons_none hstep] at hends ⊢
      exact ih hs h hm hends
    | some t =>
      rw [run_cons_some hstep] at hends ⊢
      have hs' := hs.step hstep
      rcases h.step hm hstep (hends t List.mem_cons_self) with hafter | ⟨m', hm', hreleased⟩
      · have hrest := fun u hu => hends u (List.mem_cons_of_mem _ hu)
        rcases (hs.later_step hstep).kept hm with hm' | hm'
        · exact ih hs' hafter hm' hrest
        · exact ih hs' hafter hm' hrest
      · exact .inr ((hs'.later_run schedule).released hm' hreleased)

/-! ## Runs -/

theorem lost_eq_nil {ts : List Transition} (h : ∀ t ∈ ts, t.outcome.cutsRelease = false) :
    lost ts = [] := by
  simp only [lost, List.flatMap_eq_nil_iff]
  intro t ht
  have hends := h t ht
  cases hout : t.outcome with
  | suspended o => rfl
  | returned a => rfl
  | abandoned o =>
    cases o with
    | fetch q phase => rfl
    | invalidation i m => rfl
    | release m rest count => simp [hout, Outcome.cutsRelease] at hends

/-- With no release cut off, a run from a fresh registry ends with empty hands. -/
theorem sound_of_releases_end {schedule : Schedule}
    (h : ∀ t ∈ (({} : Shared).run schedule).transitions, t.outcome.cutsRelease = false) :
    (({} : Shared).run schedule).final.Sound [] := by
  obtain ⟨held, hsound, hmem⟩ := Sound.initial.run schedule
  have hheld : held = [] := by
    rw [List.eq_nil_iff_forall_not_mem]
    intro slot hslot
    simpa [lost_eq_nil h] using (hmem slot).mp hslot
  exact hheld ▸ hsound

/-- What a schedule leads to, and how: mediators in the map are alive, orphans are closed or before
a release that will close them, slots do not come back, and callers are given what is current. -/
structure NothingOutOfReach (schedule : Schedule) (r : Run Shared Transition) : Prop where
  alive : ∀ {slot m}, r.final.registry.Mapped slot → r.final.registry.mediator? slot = some m →
    m.released = false
  orphan : ∀ {slot m}, ¬ r.final.registry.Mapped slot →
    r.final.registry.mediator? slot = some m →
    m.released = true ∨ ∃ c, r.final.Draining c slot
  /-- A slot leaves what a release has before it only by being closed. -/
  closing : ∀ {first rest c slot m}, schedule = first ++ rest →
    (({} : Shared).run first).final.Draining c slot →
    (({} : Shared).run first).final.registry.mediator? slot = some m →
    r.final.Draining c slot ∨ r.final.registry.Closed slot
  /-- A slot that was opened and is not in the map stays out of it. -/
  gone : ∀ {first rest slot}, schedule = first ++ rest →
    slot < (({} : Shared).run first).final.registry.cells.size →
    ¬ (({} : Shared).run first).final.registry.Mapped slot → ¬ r.final.registry.Mapped slot
  given : ∀ {t answer i slot}, t ∈ r.transitions → t.outcome = .returned answer →
    answer.given? = some (i, slot) → ∃ m, t.after.registry.Current i slot m

/-- A builder and a caller that waits for it, overtaken by a release; the waiting caller builds
anew and goes away, the first one builds again, and a second release closes two shadows. -/
def overtaken : Schedule :=
  let first : Identity := ⟨"a", "", "", "", ""⟩
  let second : Identity := ⟨"b", "", "", "", ""⟩
  let ask (i : Identity) (business : Handle) : Action := .fetch ⟨i, {}, business⟩
  [(0, ask first "x"), (1, ask first "y"), (2, .release), (0, .built (.ok (some "s"))),
    (1, .resume), (0, .closed none), (1, .abandon), (0, .resume), (3, ask second "z"),
    (0, .built (.ok (some "t"))), (3, .built (.ok (some "u"))), (2, .lookup first),
    (2, .release), (1, .lookup second), (2, .closed none)]

end Shared

end ShadowTraffic
