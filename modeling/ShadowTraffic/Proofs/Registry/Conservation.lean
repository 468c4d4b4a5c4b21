import ShadowTraffic.Proofs.Registry.Accounts

/-! # Mediators are conserved

Every mediator that was built is in the map or was closed by exactly one call: by an invalidation
that found it there, by a release that counts it, or as an orphan by one who had asked for it.
When nobody is in the middle of an operation the numbers agree, and it makes no difference to them
how the closes of the shadows ended.
-/

namespace ShadowTraffic

/-- The slots in the map that have been filled, in the order of their keys. -/
def Registry.current (r : Registry) : List SlotId :=
  (r.slots.entries.filter fun e => (r.mediator? e.2).isSome).map (·.2)

theorem Registry.length_current (r : Registry) : r.current.length = r.active := by
  simp [current, active, stats, List.filter_map, Function.comp_def]

theorem Registry.mem_current {r : Registry} {k : SlotId} :
    k ∈ r.current ↔ r.Mapped k ∧ (r.mediator? k).isSome = true := by
  simp only [current, Mapped, List.mem_map, List.mem_filter, Dictionary.get?_eq_some]
  constructor
  · rintro ⟨⟨key, slot⟩, ⟨hmem, hsome⟩, rfl⟩
    exact ⟨⟨key, hmem⟩, hsome⟩
  · rintro ⟨⟨key, hmem⟩, hsome⟩
    exact ⟨(key, k), ⟨hmem, hsome⟩, rfl⟩

namespace Sound

variable {r : Registry} {ongoing : CallerId → Option Ongoing} {held : List SlotId}

theorem nodup_current (h : Sound r ongoing held) : r.current.Nodup := by
  refine List.Nodup.map_on ?_ ((Dictionary.nodup_entries r.slots).filter _)
  rintro ⟨key, slot⟩ hmem ⟨key', slot'⟩ hmem' heq
  dsimp only at heq
  subst heq
  have hget := Dictionary.get?_eq_some.mpr (List.mem_of_mem_filter hmem)
  have hget' := Dictionary.get?_eq_some.mpr (List.mem_of_mem_filter hmem')
  rw [h.distinct hget hget']

/-- When nobody is in the middle of an operation, what has been built is in the map or closed. -/
theorem card_filled (h : Sound r ongoing []) (hidle : ∀ c, ongoing c = none) :
    r.filled.card = r.active + r.closed.card := by
  have hdue : ∀ k, ¬ Due ongoing [] k := by
    rintro k (hheld | ⟨c, m, rest, count, hc, -⟩)
    · cases hheld
    · rw [hidle] at hc
      cases hc
  have hdisjoint : Disjoint r.current.toFinset r.closed := by
    refine Finset.disjoint_left.mpr fun k hk hclosed => ?_
    obtain ⟨⟨key, hkey⟩, -⟩ := Registry.mem_current.mp (List.mem_toFinset.mp hk)
    obtain ⟨m, hm, hreleased⟩ := Registry.mem_closed.mp hclosed
    rw [(h.live hkey hm).1] at hreleased
    cases hreleased
  have hfilled : r.filled = r.current.toFinset ∪ r.closed := by
    ext k
    rw [Finset.mem_union, List.mem_toFinset, Registry.mem_current, Registry.mem_closed,
      Registry.mem_filled, Registry.filling?, Option.isSome_map]
    constructor
    · intro hsome
      obtain ⟨m, hm⟩ := Option.isSome_iff_exists.mp hsome
      cases hreleased : m.released with
      | true => exact .inr ⟨m, hm, hreleased⟩
      | false => exact .inl ⟨(h.reachable hm hreleased).resolve_right (hdue k), hsome⟩
    · rintro (⟨-, hsome⟩ | ⟨m, hm, -⟩)
      · exact hsome
      · rw [hm]
        rfl
  rw [hfilled, Finset.card_union_of_disjoint hdisjoint,
    List.toFinset_card_of_nodup h.nodup_current, Registry.length_current]

end Sound

/-! ## Closes that fail -/

/-- The report that a close failed. -/
def Effect.isCloseFailure : Effect → Bool
  | .noticed (.closeFailed ..) => true
  | _ => false

/-- A close that ends well in the place of one that may have failed. -/
def Action.forgiving : Action → Action
  | .closed _ => .closed none
  | a => a

/-- A transition but for whether a close has failed. -/
def Transition.forgiving (t : Transition) : Transition :=
  { t with
    action := t.action.forgiving
    effects := t.effects.filter fun e => !e.isCloseFailure }

def Schedule.forgiving (schedule : Schedule) : Schedule :=
  schedule.map fun e => (e.1, e.2.forgiving)

theorem filter_closeEffects (m : Mediator) (failure : Option ProvisionError) (more : List Effect) :
    (closeEffects m failure ++ more).filter (fun e => !e.isCloseFailure) =
      (closeEffects m none ++ more).filter fun e => !e.isCloseFailure := by
  cases failure <;> rfl

namespace Shared

variable {t : Transition}

/-- It makes no difference to a step, but for the report, whether a close has failed. -/
theorem step_forgiving (s : Shared) (c : CallerId) (a : Action) :
    (s.step c a.forgiving).map Transition.forgiving = (s.step c a).map Transition.forgiving := by
  cases a with
  | closed failure =>
    cases hongoing : s.ongoing c with
    | none => simp [step, stretch?, hongoing, Action.forgiving]
    | some o =>
      cases o with
      | fetch q phase =>
        cases phase with
        | waiting slot => simp [step, stretch?, hongoing, Action.forgiving]
        | building slot span => simp [step, stretch?, hongoing, Action.forgiving]
        | closing slot m =>
          simp [step, stretch?, hongoing, Action.forgiving, Transition.forgiving, Stretch.map,
            Stretch.after, Fetch.closed, afterStretch, filter_closeEffects m failure]
      | invalidation i m =>
        simp [step, stretch?, hongoing, Action.forgiving, Transition.forgiving, Stretch.map,
          Stretch.after, Invalidate.closed, afterStretch, filter_closeEffects m failure]
      | release m rest count =>
        simp [step, stretch?, hongoing, Action.forgiving, Transition.forgiving, Stretch.map,
          Stretch.after, Release.closed, afterStretch, filter_closeEffects m failure]
  | fetch q => rfl
  | lookup i => rfl
  | invalidate i => rfl
  | release => rfl
  | resume => rfl
  | built p => rfl
  | abandon => rfl

theorem run_forgiving (s : Shared) (schedule : Schedule) :
    (s.run (.forgiving schedule)).final = (s.run schedule).final ∧
      (s.run (.forgiving schedule)).transitions.map Transition.forgiving =
        (s.run schedule).transitions.map Transition.forgiving := by
  induction schedule generalizing s with
  | nil => exact ⟨rfl, rfl⟩
  | cons e schedule ih =>
    obtain ⟨c, a⟩ := e
    have hsame := s.step_forgiving c a
    rw [Schedule.forgiving, List.map_cons, ← Schedule.forgiving]
    dsimp only
    cases hstep : s.step c a with
    | none =>
      rw [hstep, Option.map_none, Option.map_eq_none_iff] at hsame
      rw [run_cons_none hstep, run_cons_none hsame]
      exact ih s
    | some t =>
      rw [hstep, Option.map_some, Option.map_eq_some_iff] at hsame
      obtain ⟨t', hstep', hforgiving⟩ := hsame
      have hafter : t'.forgiving.after = t.forgiving.after := by rw [hforgiving]
      change t'.after = t.after at hafter
      rw [run_cons_some hstep, run_cons_some hstep', hafter]
      obtain ⟨hfinal, htransitions⟩ := ih t.after
      exact ⟨hfinal, by rw [List.map_cons, List.map_cons, hforgiving, htransitions]⟩

/-! ## The account of a run -/

/-- What the numbers of a run come to. -/
structure Conserved (schedule : Schedule) (r : Run Shared Transition) : Prop where
  /-- Each shadow handle that a factory has given is that of one slot. -/
  built : ∀ slot, r.transitions.countP (fun t => (t.fills? slot).isSome) ≤ 1
  /-- A caller that begins to wait for a shadow starts the close of exactly one slot's. -/
  begun : ∀ t ∈ r.transitions, ∀ m, t.outcome.closing? = some m →
    ∃ slot, t.StartsClose slot ∧ t.after.registry.filling? slot = some m.asBuilt ∧
      ∀ other, t.StartsClose other → other = slot
  /-- No close is started without being waited for. -/
  waited : ∀ t ∈ r.transitions, ∀ slot, t.StartsClose slot →
    ∃ m, t.outcome.closing? = some m ∧ t.after.registry.filling? slot = some m.asBuilt
  once : ∀ slot, r.transitions.countP (·.StartsClose slot) ≤ 1
  orphans : ∀ t ∈ r.transitions, ∀ slot ∈ t.orphans, ¬ t.before.registry.Mapped slot
  balance : (∀ c, r.final.ongoing c = none) →
    r.transitions.countP (·.completion?.isSome) =
      r.final.registry.active + (r.transitions.map (·.outcome.releasedCount)).sum +
        r.transitions.countP (·.invalidates) + (r.transitions.map (·.orphans.card)).sum
  closed : (∀ c, r.final.ongoing c = none) → ∀ slot m, ¬ r.final.registry.Mapped slot →
    r.final.registry.mediator? slot = some m → m.shadow ≠ none →
    r.transitions.countP (·.StartsClose slot) = 1
  /-- The same schedule with other results of its closes leads to the same, by the same
  transitions but for the reports of failure. -/
  failures : ∀ other : Schedule, other.forgiving = schedule.forgiving →
    (({} : Shared).run other).final = r.final ∧
      (({} : Shared).run other).transitions.map Transition.forgiving =
        r.transitions.map Transition.forgiving

/-- A flag raised in a run is up at its end, over the same mediator. -/
theorem Balanced.shadow?_final {schedule : Schedule} (ht : t ∈ (({} : Shared).run schedule).transitions)
    (h : Balanced t) {slot : SlotId} (hslot : slot ∈ t.retires) :
    (({} : Shared).run schedule).final.registry.shadow? slot = t.after.registry.shadow? slot := by
  obtain ⟨upto, rest, rfl, hupto⟩ := run_after ht
  obtain ⟨held, hs⟩ := sound_run upto
  rw [hupto] at hs
  have hclosed : slot ∈ t.after.registry.closed := by
    rw [h.begun.closed]
    exact Finset.mem_union_right _ hslot
  obtain ⟨m, hm, -⟩ := Registry.mem_closed.mp hclosed
  have hfilling := Registry.filling?_of_mediator? hm
  rw [run_append, hupto]
  simp only [Registry.shadow?, hfilling, (hs.later_run rest).filling hfilling]

section

variable {schedule : Schedule}
  (hends : ∀ t ∈ (({} : Shared).run schedule).transitions, t.outcome.cutsRelease = false)
include hends

theorem balanced_run (ht : t ∈ (({} : Shared).run schedule).transitions) : Balanced t := by
  obtain ⟨first, e, rest, -, hstep⟩ := run_mem ht
  obtain ⟨held, hfirst⟩ := sound_run first
  exact hfirst.balanced hstep (hends t ht)

theorem tallied_run :
    Tallied (schedule.map (·.1)).toFinset {} (({} : Shared).run schedule) :=
  Sound.initial.tallied _ schedule
    (fun _ he => List.mem_toFinset.mpr (List.mem_map_of_mem he)) hends

/-- A flag is up at the end exactly when it was raised once. -/
theorem countP_retires (slot : SlotId) :
    (({} : Shared).run schedule).transitions.countP (slot ∈ ·.retires) =
      (decide (slot ∈ (({} : Shared).run schedule).final.registry.closed)).toNat :=
  (tallied_run hends).closedOnce slot

theorem fills_once (slot : SlotId) :
    (({} : Shared).run schedule).transitions.countP (fun t => (t.fills? slot).isSome) ≤ 1 := by
  have hfilled := (tallied_run hends).filledOnce slot
  have hle := Bool.toNat_le (decide (slot ∈ (({} : Shared).run schedule).final.registry.filled))
  omega

theorem closes_once (slot : SlotId) :
    (({} : Shared).run schedule).transitions.countP (·.StartsClose slot) ≤ 1 := by
  have hle := List.countP_mono_left (l := (({} : Shared).run schedule).transitions)
    (p := (·.StartsClose slot)) (q := (slot ∈ ·.retires)) fun t _ ht => by
      simp only [decide_eq_true_eq] at ht ⊢
      exact ht.1
  rw [countP_retires hends] at hle
  exact hle.trans (Bool.toNat_le _)

variable (hidle : ∀ c, (({} : Shared).run schedule).final.ongoing c = none)
include hidle

theorem numbers_agree :
    (({} : Shared).run schedule).transitions.countP (·.completion?.isSome) =
      (({} : Shared).run schedule).final.registry.active +
        ((({} : Shared).run schedule).transitions.map (·.outcome.releasedCount)).sum +
        (({} : Shared).run schedule).transitions.countP (·.invalidates) +
        ((({} : Shared).run schedule).transitions.map (·.orphans.card)).sum := by
  have hfilled := (tallied_run hends).filled
  have hclosed := (tallied_run hends).closed
  have hcard := ShadowTraffic.Sound.card_filled (sound_of_releases_end hends) hidle
  -- no release has counted anything that it has not answered, neither before nor after the run
  have hnone : ∀ c ∈ (schedule.map (·.1)).toFinset,
      Ongoing.soFar ((({} : Shared).run schedule).final.ongoing c) = 0 := by
    intro c _
    rw [hidle]
    rfl
  have hquiet : ∑ c ∈ (schedule.map (·.1)).toFinset, Ongoing.soFar (({} : Shared).ongoing c) = 0 :=
    Finset.sum_eq_zero fun c _ => rfl
  rw [Finset.sum_eq_zero hnone, hquiet] at hclosed
  have hnothing : ({} : Shared).registry.filled.card = 0 := rfl
  have hnothing' : ({} : Shared).registry.closed.card = 0 := rfl
  omega

/-- A mediator out of the map is released when nobody is going to close it any more. -/
theorem released_of_idle {slot : SlotId} {m : Mediator}
    (horphan : ¬ (({} : Shared).run schedule).final.registry.Mapped slot)
    (hm : (({} : Shared).run schedule).final.registry.mediator? slot = some m) :
    m.released = true := by
  by_contra hnot
  rcases (sound_of_releases_end hends).reachable hm (by simpa using hnot) with
    hmapped | hheld | ⟨c, _, _, _, hc, -⟩
  · exact horphan hmapped
  · cases hheld
  · rw [hidle] at hc
    cases hc

theorem closes_orphan {slot : SlotId} {m : Mediator}
    (horphan : ¬ (({} : Shared).run schedule).final.registry.Mapped slot)
    (hm : (({} : Shared).run schedule).final.registry.mediator? slot = some m)
    (hshadow : m.shadow ≠ none) :
    (({} : Shared).run schedule).transitions.countP (·.StartsClose slot) = 1 := by
  have hclosed : slot ∈ (({} : Shared).run schedule).final.registry.closed :=
    Registry.mem_closed.mpr ⟨m, hm, released_of_idle hends hidle horphan hm⟩
  have hone := countP_retires hends slot
  rw [decide_eq_true hclosed, Bool.toNat_true] at hone
  obtain ⟨t, ht, hretires⟩ := List.countP_pos_iff.mp (hone ▸ Nat.one_pos)
  have hslot : slot ∈ t.retires := of_decide_eq_true hretires
  have hstarts : t.StartsClose slot := by
    refine ⟨hslot, ?_⟩
    rw [← (balanced_run hends ht).shadow?_final ht hslot, Registry.shadow?,
      Registry.filling?_of_mediator? hm]
    exact hshadow
  exact Nat.le_antisymm (closes_once hends slot)
    (List.countP_pos_iff.mpr ⟨t, ht, decide_eq_true hstarts⟩)

end

/-- Five builds: one is overtaken by a release that closes two others, and becomes an orphan; then
one is invalidated and one is left. The close of a shadow fails on the way. -/
def accountedFor : Schedule :=
  let first : Identity := ⟨"a", "", "", "", ""⟩
  let second : Identity := ⟨"b", "", "", "", ""⟩
  let third : Identity := ⟨"c", "", "", "", ""⟩
  let ask (i : Identity) (business : Handle) : Action := .fetch ⟨i, {}, business⟩
  [(0, ask first "x"), (3, ask second "y"), (3, .built (.ok (some "s"))), (4, ask third "z"),
    (4, .built (.ok none)), (1, ask first "w"), (2, .release), (0, .built (.ok (some "t"))),
    (1, .resume), (2, .closed (some (.other "refused"))), (0, .closed none),
    (1, .built (.ok (some "u"))), (0, .resume), (3, ask second "y"),
    (3, .built (.error (.other "refused"))), (2, .invalidate first), (2, .closed none)]

end Shared

end ShadowTraffic
