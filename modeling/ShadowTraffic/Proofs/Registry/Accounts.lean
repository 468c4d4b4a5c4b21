import Mathlib.Algebra.BigOperators.Group.Finset.Basic
import Mathlib.Algebra.BigOperators.Group.List.Basic
import Mathlib.Algebra.GroupWithZero.Nat
import ShadowTraffic.Proofs.Registry.Closings
import ShadowTraffic.Proofs.Registry.Fillings

/-! # Accounts of what is built and closed

Every transition accounts for the mediators that it closes: an invalidation for the one that it
found in the map, a release by what it counts, one who asks for a mediator by orphans. Summed over
a run, the accounts say how many slots have been filled and how many of these are closed.
-/

namespace ShadowTraffic

/-! ## What a transition accounts for -/

/-- The outcome of asking for a mediator. -/
def Outcome.isFetch : Outcome → Bool
  | suspended (.fetch ..) => true
  | returned (.fetched ..) => true
  | abandoned (.fetch ..) => true
  | _ => false

/-- The number that a release answers. -/
def Outcome.releasedCount : Outcome → Nat
  | returned (.released count) => count
  | _ => 0

/-- What a release that is under way has counted. -/
def Ongoing.soFar : Option Ongoing → Nat
  | some (.release _ _ count) => count
  | _ => 0

@[simp] theorem Ongoing.soFar_none : Ongoing.soFar none = 0 := rfl

/-- The action invalidates an identity whose mediator is in the map. -/
def Action.finds (r : Registry) : Action → Bool
  | .invalidate i => (r.lookup i).isSome
  | _ => false

namespace Transition

/-- The slots whose mediators the transition closes or begins to close. -/
def retires (t : Transition) : Finset SlotId :=
  t.after.registry.closed \ t.before.registry.closed

/-- The close operation of the slot's shadow is started. -/
def StartsClose (t : Transition) (slot : SlotId) : Prop :=
  slot ∈ t.retires ∧ t.after.registry.shadow? slot ≠ none

instance (t : Transition) (slot : SlotId) : Decidable (t.StartsClose slot) :=
  inferInstanceAs (Decidable (_ ∧ _))

/-- The mediators that are closed by one who asks, as nothing else can close them. -/
def orphans (t : Transition) : Finset SlotId :=
  if t.outcome.isFetch then t.retires else ∅

/-- A mediator is found in the map by an invalidation. -/
def invalidates (t : Transition) : Bool :=
  t.action.finds t.before.registry

end Transition

namespace Outcome

variable (q : Request) (o : FetchOutcome)

@[simp] theorem isFetch_ofFetch : (ofFetch q o).isFetch = true := by
  cases o <;> rfl

@[simp] theorem releasedCount_ofFetch : (ofFetch q o).releasedCount = 0 := by
  cases o <;> rfl

@[simp] theorem soFar_ofFetch : Ongoing.soFar (ofFetch q o).ongoing? = 0 := by
  cases o <;> rfl

variable (i : Identity) (o : InvalidateOutcome)

@[simp] theorem isFetch_ofInvalidate : (ofInvalidate i o).isFetch = false := by
  cases o <;> rfl

@[simp] theorem releasedCount_ofInvalidate : (ofInvalidate i o).releasedCount = 0 := by
  cases o <;> rfl

@[simp] theorem soFar_ofInvalidate : Ongoing.soFar (ofInvalidate i o).ongoing? = 0 := by
  cases o <;> rfl

variable (o : ReleaseOutcome)

@[simp] theorem isFetch_ofRelease : (ofRelease o).isFetch = false := by
  cases o <;> rfl

/-- A release counts on until it answers. -/
theorem count_ofRelease :
    (ofRelease o).releasedCount + Ongoing.soFar (ofRelease o).ongoing? = o.count := by
  cases o with
  | closing m rest count => exact Nat.zero_add count
  | done count => rfl

end Outcome

/-! ## One stretch -/

/-- What a stretch begins to close, and who accounts for it. -/
structure Accounts (s : Shared) (c : CallerId) (a : Action) (st : Stretch Outcome)
    (slots : Finset SlotId) : Prop where
  begun : Begun s.registry st.registry slots st.outcome.closing?
  counted : slots.card + Ongoing.soFar (s.ongoing c) =
    st.outcome.releasedCount + (a.finds s.registry).toNat +
      (if st.outcome.isFetch then slots.card else 0) + Ongoing.soFar st.outcome.ongoing?
  /-- Who asks for a mediator closes none that is in the map. -/
  orphan : st.outcome.isFetch = true → ∀ k ∈ slots, ¬ s.registry.Mapped k

namespace Accounts

variable {s : Shared} {c : CallerId} {a : Action} {slots : Finset SlotId}

theorem fetch {st : Stretch FetchOutcome} {q : Request}
    (hbegun : Begun s.registry st.registry slots st.outcome.closing?)
    (hsoFar : Ongoing.soFar (s.ongoing c) = 0) (ha : a.finds s.registry = false)
    (horphan : ∀ k ∈ slots, ¬ s.registry.Mapped k) :
    Accounts s c a (st.map (.ofFetch q)) slots where
  begun := by simpa [Stretch.map] using hbegun
  counted := by simp [Stretch.map, hsoFar, ha]
  orphan _ := horphan

theorem release {st : Stretch ReleaseOutcome}
    (hbegun : Begun s.registry st.registry slots st.outcome.closing?)
    (hcount : st.outcome.count = Ongoing.soFar (s.ongoing c) + slots.card)
    (ha : a.finds s.registry = false) : Accounts s c a (st.map .ofRelease) slots where
  begun := by simpa [Stretch.map] using hbegun
  counted := by
    have hanswer := Outcome.count_ofRelease st.outcome
    simp only [Stretch.map, ha, Outcome.isFetch_ofRelease, Bool.toNat_false, Bool.false_eq_true,
      if_false]
    omega
  orphan hfetch := by simp [Stretch.map] at hfetch

/-- Nothing is closed and nothing is counted. -/
theorem nothing {st : Stretch Outcome} (hclosed : st.registry.closed = s.registry.closed)
    (hclosing : st.outcome.closing? = none)
    (hcounted : Ongoing.soFar (s.ongoing c) = st.outcome.releasedCount +
      (a.finds s.registry).toNat + Ongoing.soFar st.outcome.ongoing?) : Accounts s c a st ∅ where
  begun := by
    rw [hclosing]
    exact .none_begun hclosed
  counted := by
    simp only [Finset.card_empty, ite_self]
    omega
  orphan _ := by simp

end Accounts

namespace Shared

variable {s : Shared} {held : List SlotId} {c : CallerId} {a : Action} {t : Transition}

/-- A slot where a caller waits or builds is an orphan unless it is the caller's own. -/
theorem Sound.orphan {q : Request} {phase : FetchPhase} {slot : SlotId} (h : s.Sound held)
    (here : s.ongoing c = some (.fetch q phase)) (hphase : phase.slot? = some slot)
    (hown : s.registry.slot? q.identity ≠ some slot) : ¬ s.registry.Mapped slot := by
  obtain ⟨-, hkeys⟩ := h.working here hphase
  exact ShadowTraffic.Sound.orphan_of_not_own hkeys hown

theorem Takes.accounts {st : Stretch Outcome} (h : s.Sound held) (ht : Takes s c a st)
    (hends : st.outcome.cutsRelease = false) : ∃ slots, Accounts s c a st slots := by
  cases ht with
  | fetch q idle =>
    exact ⟨∅, .fetch (Begun.start s.registry c q s.spans) (by rw [idle]; rfl) rfl (by simp)⟩
  | lookup i idle => exact ⟨∅, .nothing rfl rfl (by rw [idle]; rfl)⟩
  | invalidate i idle =>
    obtain ⟨slots, hbegun, hcard⟩ := Begun.invalidate h i
    refine ⟨slots, ?_, ?_, ?_⟩
    · simpa [Stretch.map] using hbegun
    · simp [idle, Action.finds, Stretch.map, hcard]
    · simp [Stretch.map]
  | release idle =>
    obtain ⟨hreg, hout⟩ := Release.start_eq s.registry s.spans
    obtain ⟨slots, hbegun, hcount⟩ := Begun.drain { s.registry with slots := .empty } 0
      (s.registry.slots.entries.map (·.2))
    refine ⟨slots, .release ?_ ?_ rfl⟩
    · rw [hreg, hout]
      exact hbegun.congr_left rfl
    · rw [hout, hcount, idle]
      rfl
  | @resume q slot here =>
    obtain ⟨slots, hbegun, hslots⟩ := Begun.resume s.registry c q s.spans slot
    refine ⟨slots, .fetch hbegun (by rw [here]; rfl) rfl fun k hk => ?_⟩
    obtain ⟨rfl, hown⟩ := hslots k hk
    exact h.orphan here rfl hown
  | @built q slot span p here =>
    obtain ⟨queue, hcell⟩ := h.building here
    obtain ⟨slots, hbegun, hslots⟩ := Begun.built q s.spans hcell span p
    refine ⟨slots, .fetch hbegun (by rw [here]; rfl) rfl fun k hk => ?_⟩
    obtain ⟨rfl, hown⟩ := hslots k hk
    exact h.orphan here rfl hown
  | @closed q slot m failure here =>
    exact ⟨∅, .fetch (Begun.attempt s.registry c q s.spans) (by rw [here]; rfl) rfl (by simp)⟩
  | @abandon q phase here =>
    have hbegun : Begun s.registry (Fetch.abandon s.registry c phase).registry ∅ none :=
      Begun.abandon fun hphase => h.building (hphase ▸ here)
    refine ⟨∅, .nothing ?_ rfl (by rw [here]; rfl)⟩
    exact hbegun.closed.trans (Finset.union_empty _)
  | @invalidated i m failure here => exact ⟨∅, .nothing rfl rfl (by rw [here]; rfl)⟩
  | abandonInvalidation here => exact ⟨∅, .nothing rfl rfl (by rw [here]; rfl)⟩
  | @released m rest count failure here =>
    obtain ⟨hreg, hout⟩ := Release.closed_eq s.registry m rest count failure
    obtain ⟨slots, hbegun, hcount⟩ := Begun.drain s.registry count rest
    refine ⟨slots, .release ?_ ?_ rfl⟩
    · rw [hreg, hout]
      exact hbegun
    · rw [hout, hcount, here]
      rfl
  | abandonRelease here => simp [Outcome.cutsRelease] at hends

/-! ## Transitions -/

/-- A transition closes what it accounts for. -/
structure Balanced (t : Transition) : Prop where
  begun : Begun t.before.registry t.after.registry t.retires t.outcome.closing?
  counted : t.retires.card + Ongoing.soFar (t.before.ongoing t.caller) =
    t.outcome.releasedCount + t.invalidates.toNat + t.orphans.card +
      Ongoing.soFar (t.after.ongoing t.caller)
  orphan : ∀ k ∈ t.orphans, ¬ t.before.registry.Mapped k

theorem Sound.balanced (h : s.Sound held) (ht : s.step c a = some t)
    (hends : t.outcome.cutsRelease = false) : Balanced t := by
  obtain ⟨rfl, rfl, rfl, st, htakes, hout, hafter⟩ := step_spec ht
  obtain ⟨slots, haccounts⟩ := htakes.accounts h (hout ▸ hends)
  have hreg : t.after.registry = st.registry := by rw [hafter]; rfl
  have hongoing : t.after.ongoing t.caller = st.outcome.ongoing? := by
    rw [hafter]
    exact Function.update_self ..
  have hslots : slots = t.retires := by
    rw [Transition.retires, hreg]
    exact haccounts.begun.slots_eq
  subst hslots
  have hcard : t.orphans.card = if t.outcome.isFetch then t.retires.card else 0 := by
    rw [Transition.orphans]
    split <;> rfl
  refine ⟨?_, ?_, ?_⟩
  · rw [hreg, hout]
    exact haccounts.begun
  · rw [hcard, hongoing, hout]
    exact haccounts.counted
  · intro k hk
    rw [Transition.orphans] at hk
    split at hk
    next hfetch => exact haccounts.orphan (hout ▸ hfetch) k hk
    next => cases hk

theorem Sound.filled_of_none (h : s.Sound held) (ht : s.step c a = some t)
    (hnone : t.completion? = none) : t.after.registry.filled = s.registry.filled := by
  ext k
  rw [Registry.mem_filled, Registry.mem_filled, h.filling?_step ht, Transition.fills?, hnone]
  rfl

/-- A build that ends fills a slot that was not filled. -/
theorem Sound.filled_of_completion (h : s.Sound held) (ht : s.step c a = some t) {q : Request}
    {slot : SlotId} {p : Provision} (hcompletion : t.completion? = some (q, slot, p)) :
    slot ∉ s.registry.filled ∧ t.after.registry.filled = insert slot s.registry.filled := by
  have hfilling := h.filling?_step ht
  obtain ⟨rfl, -⟩ := step_spec ht
  obtain ⟨span, here, -⟩ := Transition.completion?_eq_some.mp hcompletion
  obtain ⟨queue, hcell⟩ := h.building here
  constructor
  · rw [Registry.mem_filled, Registry.filling?_eq_none.mpr (Registry.mediator?_of_building hcell)]
    decide
  · ext k
    rw [Finset.mem_insert, Registry.mem_filled, Registry.mem_filled, hfilling,
      Transition.fills?, hcompletion]
    by_cases hk : k = slot
    · simp [hk]
    · simp [hk]

theorem Sound.filled_card (h : s.Sound held) (ht : s.step c a = some t) :
    t.after.registry.filled.card = s.registry.filled.card + t.completion?.isSome.toNat := by
  cases hcompletion : t.completion? with
  | none =>
    rw [h.filled_of_none ht hcompletion]
    rfl
  | some completed =>
    obtain ⟨hnot, hinsert⟩ := h.filled_of_completion ht hcompletion
    rw [hinsert, Finset.card_insert_of_notMem hnot]
    rfl

theorem Sound.filled_once (h : s.Sound held) (ht : s.step c a = some t) (k : SlotId) :
    (t.fills? k).isSome.toNat + (decide (k ∈ s.registry.filled)).toNat =
      (decide (k ∈ t.after.registry.filled)).toNat := by
  cases hcompletion : t.completion? with
  | none =>
    rw [h.filled_of_none ht hcompletion, Transition.fills?, hcompletion]
    exact Nat.zero_add _
  | some completed =>
    obtain ⟨hnot, hinsert⟩ := h.filled_of_completion ht hcompletion
    rw [hinsert, Transition.fills?, hcompletion]
    by_cases hk : k = completed.2.1
    · subst hk
      simp [hnot]
    · simp [hk]

/-! ## Runs -/

theorem soFar_step (ht : s.step c a = some t) {callers : Finset CallerId} (hc : c ∈ callers) :
    (∑ d ∈ callers, Ongoing.soFar (t.after.ongoing d)) + Ongoing.soFar (s.ongoing c) =
      (∑ d ∈ callers, Ongoing.soFar (s.ongoing d)) + Ongoing.soFar (t.after.ongoing c) := by
  have hothers : ∑ d ∈ callers.erase c, Ongoing.soFar (t.after.ongoing d) =
      ∑ d ∈ callers.erase c, Ongoing.soFar (s.ongoing d) :=
    Finset.sum_congr rfl fun d hd => by rw [step_ongoing ht (Finset.ne_of_mem_erase hd)]
  have hafter := Finset.add_sum_erase callers (fun d => Ongoing.soFar (t.after.ongoing d)) hc
  have hbefore := Finset.add_sum_erase callers (fun d => Ongoing.soFar (s.ongoing d)) hc
  omega

/-- What a run adds to the filled slots and to the closed ones. -/
structure Tallied (callers : Finset CallerId) (s : Shared) (r : Run Shared Transition) : Prop where
  filled : r.final.registry.filled.card =
    s.registry.filled.card + r.transitions.countP (·.completion?.isSome)
  closed : r.final.registry.closed.card + ∑ c ∈ callers, Ongoing.soFar (s.ongoing c) =
    s.registry.closed.card + (r.transitions.map (·.outcome.releasedCount)).sum +
      r.transitions.countP (·.invalidates) + (r.transitions.map (·.orphans.card)).sum +
      ∑ c ∈ callers, Ongoing.soFar (r.final.ongoing c)
  filledOnce : ∀ k, r.transitions.countP (fun t => (t.fills? k).isSome) +
    (decide (k ∈ s.registry.filled)).toNat = (decide (k ∈ r.final.registry.filled)).toNat
  closedOnce : ∀ k, r.transitions.countP (k ∈ ·.retires) + (decide (k ∈ s.registry.closed)).toNat =
    (decide (k ∈ r.final.registry.closed)).toNat

theorem Balanced.once (h : Balanced t) (k : SlotId) :
    (decide (k ∈ t.retires)).toNat + (decide (k ∈ t.before.registry.closed)).toNat =
      (decide (k ∈ t.after.registry.closed)).toNat := by
  rw [h.begun.closed]
  by_cases hbefore : k ∈ t.before.registry.closed
  · have hnot : k ∉ t.retires := Finset.disjoint_left.mp h.begun.fresh hbefore
    simp [hbefore, hnot]
  · simp [hbefore]

theorem Balanced.closed_card (h : Balanced t) :
    t.after.registry.closed.card = t.before.registry.closed.card + t.retires.card := by
  rw [h.begun.closed, Finset.card_union_of_disjoint h.begun.fresh]

theorem Balanced.waited (h : Balanced t) {slot : SlotId} (hstarts : t.StartsClose slot) :
    ∃ m, t.outcome.closing? = some m ∧ t.after.registry.filling? slot = some m.asBuilt :=
  h.begun.shadows slot hstarts.1 hstarts.2

theorem Balanced.starts (h : Balanced t) {m : Mediator} (hm : t.outcome.closing? = some m) :
    ∃ slot, t.StartsClose slot ∧ t.after.registry.filling? slot = some m.asBuilt ∧
      ∀ other, t.StartsClose other → other = slot := by
  obtain ⟨hshadow, slot, hslot, hfilling⟩ := h.begun.waits m hm
  have hstarts : t.StartsClose slot := by
    refine ⟨hslot, ?_⟩
    rw [Registry.shadow?, hfilling]
    exact hshadow
  exact ⟨slot, hstarts, hfilling,
    fun other hother => h.begun.once other hother.1 slot hslot hother.2 hstarts.2⟩

theorem Sound.tallied (hs : s.Sound held) (callers : Finset CallerId) (schedule : Schedule)
    (hcallers : ∀ e ∈ schedule, e.1 ∈ callers)
    (hends : ∀ t ∈ (s.run schedule).transitions, t.outcome.cutsRelease = false) :
    Tallied callers s (s.run schedule) := by
  induction schedule generalizing s held with
  | nil => exact ⟨rfl, rfl, fun k => Nat.zero_add _, fun k => Nat.zero_add _⟩
  | cons e schedule ih =>
    obtain ⟨c, a⟩ := e
    have hrest := fun e he => hcallers e (List.mem_cons_of_mem _ he)
    cases hstep : s.step c a with
    | none =>
      rw [run_cons_none hstep] at hends ⊢
      exact ih hs hrest hends
    | some t =>
      rw [run_cons_some hstep] at hends ⊢
      have htally := ih (hs.step hstep) hrest fun u hu => hends u (List.mem_cons_of_mem _ hu)
      have hbalanced := hs.balanced hstep (hends t List.mem_cons_self)
      have hfilled := hs.filled_card hstep
      have hfills := hs.filled_once hstep
      have hsoFar := soFar_step hstep (hcallers (c, a) List.mem_cons_self)
      obtain ⟨rfl, rfl, -⟩ := step_spec hstep
      have hcounted := hbalanced.counted
      have hcard := hbalanced.closed_card
      have hclosed := htally.closed
      refine ⟨?_, ?_, fun k => ?_, fun k => ?_⟩
      · rw [countP_cons_toNat, htally.filled, hfilled]
        omega
      · rw [countP_cons_toNat, List.map_cons, List.sum_cons, List.map_cons, List.sum_cons]
        dsimp only at hclosed ⊢
        omega
      · have honce := hfills k
        have hlater := htally.filledOnce k
        rw [countP_cons_toNat]
        dsimp only at hlater ⊢
        omega
      · have honce := hbalanced.once k
        have hlater := htally.closedOnce k
        rw [countP_cons_toNat]
        dsimp only at hlater ⊢
        omega

end Shared

end ShadowTraffic
