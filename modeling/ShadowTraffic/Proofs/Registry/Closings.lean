import Mathlib.Data.Finset.Card
import Mathlib.Data.Finset.Range
import ShadowTraffic.Proofs.Registry.Reachability

/-! # What is begun to be closed

A mediator is closed by whoever raises its release flag. If it has a shadow, the caller that raises
the flag waits for the shadow to close, so that one stretch begins at most one such wait; mediators
without a shadow are done with at once. Flags are never lowered, and so no close is begun twice.
-/

namespace ShadowTraffic

namespace Registry

/-- The slots that have been filled. -/
def filled (r : Registry) : Finset SlotId :=
  (Finset.range r.cells.size).filter fun k => (r.filling? k).isSome = true

/-- The slots whose mediators have been closed, or are being closed. -/
def closed (r : Registry) : Finset SlotId :=
  (Finset.range r.cells.size).filter fun k => (r.mediator? k).any (·.released) = true

/-- The shadow that a slot was filled with. -/
def shadow? (r : Registry) (k : SlotId) : Option Handle :=
  (r.filling? k).bind (·.shadow)

theorem mem_filled {r : Registry} {k : SlotId} : k ∈ r.filled ↔ (r.filling? k).isSome = true := by
  rw [filled, Finset.mem_filter, Finset.mem_range, and_iff_right_iff_imp, Option.isSome_iff_exists]
  rintro ⟨m, hm⟩
  exact lt_of_filling? hm

theorem mem_closed {r : Registry} {k : SlotId} : k ∈ r.closed ↔ r.Closed k := by
  rw [closed, Finset.mem_filter, Finset.mem_range, Option.any_eq_true, Closed]
  refine ⟨And.right, fun h => ⟨?_, h⟩⟩
  obtain ⟨m, hm, -⟩ := h
  exact lt_of_filling? (filling?_of_mediator? hm)

theorem closed_congr {r r' : Registry} (h : ∀ k, r'.mediator? k = r.mediator? k) :
    r'.closed = r.closed := by
  ext k
  simp only [mem_closed, Closed, h]

/-- A cell without a closed mediator changes into another without one. -/
theorem closed_setCell {r : Registry} {slot : SlotId} {cell : Cell} (h : r.mediator? slot = none)
    (hcell : ∀ m, cell = .built m → m.released = false) : (r.setCell slot cell).closed = r.closed := by
  ext k
  simp only [mem_closed, Closed, mediator?_eq_some, cell_setCell]
  by_cases hk : k = slot ∧ slot < r.cells.size
  · rw [if_pos hk]
    refine iff_of_false ?_ ?_
    · rintro ⟨m, hm, hreleased⟩
      rw [hcell m hm] at hreleased
      cases hreleased
    · rintro ⟨m, hm, -⟩
      rw [hk.1, ← mediator?_eq_some, h] at hm
      cases hm
  · rw [if_neg hk]

theorem closed_markReleased {r : Registry} {slot : SlotId} {m : Mediator}
    (h : r.mediator? slot = some m) : (r.markReleased slot).closed = insert slot r.closed := by
  ext k
  rw [Finset.mem_insert, mem_closed, mem_closed, Closed, Closed]
  by_cases hk : k = slot
  · refine iff_of_true ⟨{ m with released := true }, ?_, rfl⟩ (.inl hk)
    rw [mediator?_markReleased, hk, h]
    simp
  · simp [mediator?_markReleased, hk]

end Registry

/-! ## Closes begun between two registries -/

/-- The flags that are raised between two registries, and the mediator among theirs whose shadow is
waited for. -/
structure Begun (r r' : Registry) (slots : Finset SlotId) (closing : Option Mediator) : Prop where
  closed : r'.closed = r.closed ∪ slots
  fresh : Disjoint r.closed slots
  /-- A shadow among them is the one that is waited for. -/
  shadows : ∀ k ∈ slots, r'.shadow? k ≠ none →
    ∃ m, closing = some m ∧ r'.filling? k = some m.asBuilt
  once : ∀ k ∈ slots, ∀ k' ∈ slots, r'.shadow? k ≠ none → r'.shadow? k' ≠ none → k = k'
  waits : ∀ m, closing = some m → m.shadow ≠ none ∧ ∃ k ∈ slots, r'.filling? k = some m.asBuilt

namespace Begun

variable {a b r r' : Registry} {slots : Finset SlotId} {closing : Option Mediator}

theorem none_begun (h : r'.closed = r.closed) : Begun r r' ∅ none where
  closed := by rw [h, Finset.union_empty]
  fresh := Finset.disjoint_empty_right _
  shadows := by simp
  once := by simp
  waits := by simp

theorem slots_eq (h : Begun r r' slots closing) : slots = r'.closed \ r.closed := by
  rw [h.closed, Finset.union_sdiff_cancel_left h.fresh]

theorem congr_left (h : Begun a r slots closing) (hclosed : a.closed = b.closed) :
    Begun b r slots closing where
  closed := by rw [← hclosed, h.closed]
  fresh := hclosed ▸ h.fresh
  shadows := h.shadows
  once := h.once
  waits := h.waits

/-- One that waits for no shadow is followed by another one. -/
theorem trans {more : Finset SlotId} (h : Begun a b slots none) (h' : Begun b r more closing)
    (hlater : b.Later r) : Begun a r (slots ∪ more) closing := by
  have hclosed : r.closed = a.closed ∪ (slots ∪ more) := by
    rw [h'.closed, h.closed, Finset.union_assoc]
  have hbare : ∀ k ∈ slots, r.shadow? k = none := by
    intro k hk
    obtain ⟨m, hm, -⟩ := Registry.mem_closed.mp
      (h.closed ▸ Finset.mem_union_right _ hk : k ∈ b.closed)
    have hfilling := Registry.filling?_of_mediator? hm
    by_contra hshadow
    refine absurd (h.shadows k hk ?_) (by simp)
    rwa [Registry.shadow?, hlater.filling hfilling, ← hfilling, ← Registry.shadow?] at hshadow
  have hmore : ∀ k ∈ slots ∪ more, r.shadow? k ≠ none → k ∈ more := by
    intro k hk hshadow
    rcases Finset.mem_union.mp hk with hk | hk
    · exact absurd (hbare k hk) hshadow
    · exact hk
  have hfresh := h'.fresh
  rw [h.closed, Finset.disjoint_union_left] at hfresh
  refine ⟨hclosed, Finset.disjoint_union_right.mpr ⟨h.fresh, hfresh.1⟩, ?_, ?_, ?_⟩
  · intro k hk hshadow
    exact h'.shadows k (hmore k hk hshadow) hshadow
  · intro k hk k' hk' hshadow hshadow'
    exact h'.once k (hmore k hk hshadow) k' (hmore k' hk' hshadow') hshadow hshadow'
  · intro m hm
    obtain ⟨hshadow, k, hk, hfilling⟩ := h'.waits m hm
    exact ⟨hshadow, k, Finset.mem_union_right _ hk, hfilling⟩

end Begun

/-! ## Moves -/

/-- The slots whose flags are raised when one is to be closed. -/
def Closing.slots (slot : SlotId) : Closing → Finset SlotId
  | .nothing => ∅
  | _ => {slot}

theorem Closing.card_slots (slot : SlotId) (closing : Closing) :
    (closing.slots slot).card = closing.count := by
  cases closing with
  | nothing => rfl
  | closed m => rfl
  | shadow m => rfl

theorem Closing.eq_of_mem_slots {slot k : SlotId} {closing : Closing} (h : k ∈ closing.slots slot) :
    k = slot := by
  cases closing with
  | nothing => cases h
  | closed m => exact Finset.mem_singleton.mp h
  | shadow m => exact Finset.mem_singleton.mp h

/-- An unreleased mediator is closed. -/
theorem Registry.beginClose_of_unreleased {r : Registry} {slot : SlotId} {m : Mediator}
    (hm : r.mediator? slot = some m) (h : m.released = false) :
    r.beginClose slot = (if m.shadow.isSome then .shadow m else .closed m, r.markReleased slot) := by
  rw [beginClose, hm]
  dsimp only
  rw [h]
  rfl

namespace Begun

theorem markReleased {r : Registry} {slot : SlotId} {m : Mediator}
    (hm : r.mediator? slot = some m) (hreleased : m.released = false) :
    Begun r (r.markReleased slot) {slot} (if m.shadow.isSome then some m else none) := by
  have hfilling : (r.markReleased slot).filling? slot = some m.asBuilt := by
    rw [Registry.filling?_markReleased, Registry.filling?_of_mediator? hm]
  have hshadow : (r.markReleased slot).shadow? slot = m.shadow := by
    rw [Registry.shadow?, hfilling]
    rfl
  refine ⟨?_, ?_, ?_, ?_, ?_⟩
  · rw [Registry.closed_markReleased hm, Finset.insert_eq, Finset.union_comm]
  · rw [Finset.disjoint_singleton_right, Registry.mem_closed]
    rintro ⟨m', hm', hreleased'⟩
    cases hm.symm.trans hm'
    rw [hreleased] at hreleased'
    cases hreleased'
  · intro k hk hsome
    rw [Finset.mem_singleton.mp hk, hshadow, Option.ne_none_iff_isSome] at hsome
    rw [Finset.mem_singleton.mp hk, if_pos hsome]
    exact ⟨m, rfl, hfilling⟩
  · intro k hk k' hk' _ _
    rw [Finset.mem_singleton.mp hk, Finset.mem_singleton.mp hk']
  · intro m' hm'
    split at hm'
    next hsome =>
      cases hm'
      exact ⟨Option.ne_none_iff_isSome.mpr hsome, slot, Finset.mem_singleton_self _, hfilling⟩
    next => cases hm'

theorem beginClose (r : Registry) (slot : SlotId) :
    Begun r (r.beginClose slot).2 ((r.beginClose slot).1.slots slot)
      (r.beginClose slot).1.waits? := by
  cases hm : r.mediator? slot with
  | none =>
    have hclose : r.beginClose slot = (.nothing, r) := by rw [Registry.beginClose, hm]
    rw [hclose]
    exact none_begun rfl
  | some m =>
    cases hreleased : m.released with
    | true =>
      have hclose : r.beginClose slot = (.nothing, r) := by
        rw [Registry.beginClose, hm]
        exact if_pos hreleased
      rw [hclose]
      exact none_begun rfl
    | false =>
      have hbegun := markReleased hm hreleased
      rw [Registry.beginClose_of_unreleased hm hreleased]
      cases hshadow : m.shadow.isSome with
      | true =>
        rw [hshadow] at hbegun
        exact hbegun
      | false =>
        rw [hshadow] at hbegun
        exact hbegun

end Begun

/-! ## Stretches -/

def FetchOutcome.closing? : FetchOutcome → Option Mediator
  | .pending (.closing _ m) => some m
  | _ => none

def InvalidateOutcome.closing? : InvalidateOutcome → Option Mediator
  | .closing m => some m
  | .done _ => none

def ReleaseOutcome.closing? : ReleaseOutcome → Option Mediator
  | .closing m _ _ => some m
  | .done _ => none

/-- What the release has counted so far. -/
def ReleaseOutcome.count : ReleaseOutcome → Nat
  | .closing _ _ count => count
  | .done count => count

/-- The mediator whose shadow a caller begins to close. -/
def Outcome.closing? : Outcome → Option Mediator
  | suspended (.fetch _ (.closing _ m)) => some m
  | suspended (.invalidation _ m) => some m
  | suspended (.release m _ _) => some m
  | _ => none

namespace Outcome

@[simp] theorem closing?_ofFetch (q : Request) (o : FetchOutcome) :
    (ofFetch q o).closing? = o.closing? := by
  cases o with
  | got slot => rfl
  | pending phase => cases phase <;> rfl

@[simp] theorem closing?_ofInvalidate (i : Identity) (o : InvalidateOutcome) :
    (ofInvalidate i o).closing? = o.closing? := by
  cases o <;> rfl

@[simp] theorem closing?_ofRelease (o : ReleaseOutcome) : (ofRelease o).closing? = o.closing? := by
  cases o <;> rfl

end Outcome

namespace Begun

variable (r : Registry) (c : CallerId) (q : Request) (fresh : SpanId) (slot : SlotId)

/-- A round closes nothing. -/
theorem attempt : Begun r (Fetch.attempt r c q fresh).registry ∅
    (Fetch.attempt r c q fresh).outcome.closing? := by
  have hopen : (r.slotFor q.identity).2.closed = r.closed :=
    Registry.closed_congr (r.mediator?_slotFor q.identity)
  rcases Fetch.attempt_cases r c q fresh with
    ⟨-, hreg, hout⟩ | ⟨hcell, hreg, hout⟩ | ⟨_, _, hcell, hreg, hout⟩
  · rw [hreg, hout]
    exact none_begun hopen
  · rw [hreg, hout]
    refine none_begun ?_
    rw [Registry.closed_setCell (Registry.mediator?_of_vacant hcell) (by simp), hopen]
  · rw [hreg, hout]
    refine none_begun ?_
    rw [Registry.closed_setCell (Registry.mediator?_of_building hcell) (by simp), hopen]

/-- Where a fetch settles, it closes at most its slot, and only if that is not its own. -/
theorem settle (constructed : Bool) :
    ∃ slots, Begun r (Fetch.settle r c q fresh slot constructed).registry slots
        (Fetch.settle r c q fresh slot constructed).outcome.closing? ∧
      ∀ k ∈ slots, k = slot ∧ r.slot? q.identity ≠ some slot := by
  by_cases hown : r.slot? q.identity = some slot
  · obtain ⟨hreg, hout⟩ := Fetch.settle_own hown c fresh constructed
    rw [hreg, hout]
    exact ⟨∅, none_begun rfl, by simp⟩
  · have hclose := beginClose r slot
    refine ⟨(r.beginClose slot).1.slots slot, ?_,
      fun k hk => ⟨Closing.eq_of_mem_slots hk, hown⟩⟩
    rcases Fetch.settle_orphan hown c fresh constructed with
      ⟨hwaits, hreg, hout⟩ | ⟨m, hwaits, hreg, hout⟩
    · rw [hreg, hout]
      rw [hwaits] at hclose
      have hround := hclose.trans (attempt _ c q fresh) (.attempt _ c q fresh)
      rwa [Finset.union_empty] at hround
    · rw [hreg, hout]
      rw [hwaits] at hclose
      exact hclose

theorem start : Begun r (Fetch.start r c q fresh).registry ∅
    (Fetch.start r c q fresh).outcome.closing? := by
  rcases Fetch.start_cases r c q fresh with ⟨_, -, hreg, hout⟩ | ⟨-, heq⟩
  · rw [hreg, hout]
    exact none_begun rfl
  · rw [heq]
    exact attempt r c q fresh

theorem resume :
    ∃ slots, Begun r (Fetch.resume r c q fresh slot).registry slots
        (Fetch.resume r c q fresh slot).outcome.closing? ∧
      ∀ k ∈ slots, k = slot ∧ r.slot? q.identity ≠ some slot := by
  rcases Fetch.resume_cases r c q fresh slot with ⟨-, heq⟩ | ⟨_, -, hreg, hout⟩ |
    ⟨_, _, -, -, hreg, hout⟩ | ⟨hcell, hreg, hout⟩
  · rw [heq]
    exact settle r c q fresh slot false
  · rw [hreg, hout]
    exact ⟨∅, none_begun rfl, by simp⟩
  · rw [hreg, hout]
    exact ⟨∅, none_begun rfl, by simp⟩
  · rw [hreg, hout]
    refine ⟨∅, none_begun ?_, by simp⟩
    exact Registry.closed_setCell (Registry.mediator?_of_vacant hcell) (by simp)

variable {r c slot} in
theorem built {queue : List CallerId} (hcell : r.cell slot = .building c queue) (span : SpanId)
    (p : Provision) :
    ∃ slots, Begun r (Fetch.built r c q fresh slot span p).registry slots
        (Fetch.built r c q fresh slot span p).outcome.closing? ∧
      ∀ k ∈ slots, k = slot ∧ r.slot? q.identity ≠ some slot := by
  obtain ⟨hreg, hout⟩ := Fetch.built_eq r c q fresh slot span p
  obtain ⟨slots, hbegun, hslots⟩ := settle (r.setCell slot (.built (q.filling p))) c q fresh slot true
  rw [hreg, hout]
  refine ⟨slots, hbegun.congr_left ?_, hslots⟩
  refine Registry.closed_setCell (Registry.mediator?_of_building hcell) ?_
  rintro m hm
  cases hm
  rfl

variable {r c} in
theorem abandon {phase : FetchPhase}
    (h : ∀ {slot span}, phase = .building slot span → ∃ queue, r.cell slot = .building c queue) :
    Begun r (Fetch.abandon r c phase).registry ∅ none := by
  rcases Fetch.abandon_empty h with hreg | ⟨slot, cell, hreg, hempty, hbuilt⟩
  · rw [hreg]
    exact none_begun rfl
  · rw [hreg]
    refine none_begun (Registry.closed_setCell hempty ?_)
    intro m hm
    exact absurd hm (hbuilt m)

variable {r} in
/-- An invalidation closes the mediator that it finds in the map. -/
theorem invalidate {ongoing : CallerId → Option Ongoing} {held : List SlotId}
    (h : Sound r ongoing held) (i : Identity) :
    ∃ slots, Begun r (Invalidate.start r i).registry slots
        (Invalidate.start r i).outcome.closing? ∧
      slots.card = (r.lookup i).isSome.toNat := by
  cases hslot : r.slot? i with
  | none =>
    obtain ⟨hreg, hout⟩ := Invalidate.start_missing hslot
    rw [hreg, hout, Registry.lookup, hslot]
    exact ⟨∅, none_begun rfl, rfl⟩
  | some slot =>
    obtain ⟨hreg, hout⟩ := Invalidate.start_found hslot
    have hclose := (beginClose (r.remove i) slot).congr_left (b := r) rfl
    have hclosing : (Invalidate.start r i).outcome.closing? =
        ((r.remove i).beginClose slot).1.waits? := by
      rw [hout]
      cases ((r.remove i).beginClose slot).1.waits? <;> rfl
    rw [hreg, hclosing]
    refine ⟨_, hclose, ?_⟩
    rw [Closing.card_slots, Registry.lookup, hslot]
    cases hm : r.mediator? slot with
    | none =>
      have hnothing : (r.remove i).beginClose slot = (.nothing, r.remove i) := by
        rw [Registry.beginClose, show (r.remove i).mediator? slot = none from hm]
      rw [hnothing, Option.filter_some, hm]
      rfl
    | some m =>
      -- what the map leads to has not been released
      obtain ⟨hreleased, -⟩ := h.live hslot hm
      have hone := Registry.beginClose_of_unreleased
        (show (r.remove i).mediator? slot = some m from hm) hreleased
      rw [hone, Option.filter_some, hm]
      cases m.shadow.isSome <;> rfl

/-- A drain counts the mediators that it closes. -/
theorem drain (count : Nat) (slots : List SlotId) :
    ∃ begun, Begun r (Release.drain r count slots).registry begun
        (Release.drain r count slots).outcome.closing? ∧
      (Release.drain r count slots).outcome.count = count + begun.card := by
  induction slots generalizing r count with
  | nil =>
    obtain ⟨hreg, hout⟩ := Release.drain_nil r count
    rw [hreg, hout]
    exact ⟨∅, none_begun rfl, rfl⟩
  | cons slot rest ih =>
    have hclose := beginClose r slot
    have hcard := Closing.card_slots slot (r.beginClose slot).1
    rcases Release.drain_counts r count slot rest with
      ⟨hwaits, hreg, hout⟩ | ⟨m, hwaits, hreg, hout⟩
    · rw [hreg, hout]
      rw [hwaits] at hclose
      obtain ⟨more, hmore, hcount⟩ :=
        ih (r.beginClose slot).2 (count + (r.beginClose slot).1.count)
      have hboth := hclose.trans hmore (.drain _ _ rest)
      refine ⟨_, hboth, ?_⟩
      have hdisjoint : Disjoint ((r.beginClose slot).1.slots slot) more := by
        have hfresh := hmore.fresh
        rw [hclose.closed, Finset.disjoint_union_left] at hfresh
        exact hfresh.2
      rw [hcount, Finset.card_union_of_disjoint hdisjoint, hcard, Nat.add_assoc]
    · rw [hreg, hout]
      rw [hwaits] at hclose
      exact ⟨_, hclose, by rw [hcard]; rfl⟩

end Begun

end ShadowTraffic
