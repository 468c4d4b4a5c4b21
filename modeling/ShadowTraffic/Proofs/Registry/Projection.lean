import Mathlib.Data.List.Nodup
import ShadowTraffic.Proofs.Registry.Stretches

/-! # A registry seen from one identity

Another registry, in which only one identity was ever asked for, shows of this one the slots of
that identity: their cells, and which of them is in the map. Slots are numbered apart in the two, in
the order in which they were opened. A stretch for the identity does the same to both; one for
another identity leaves what is shown as it is.
-/

namespace ShadowTraffic

@[simp] theorem Registry.size_cells_beginClose (r : Registry) (slot : SlotId) :
    (r.beginClose slot).2.cells.size = r.cells.size := by
  rcases r.beginClose_cases slot with ⟨hsame, -⟩ | hmark
  · rw [hsame]
  · rw [hmark, size_cells_markReleased]

/-- Among the slots of one identity, in the order in which they were opened, this is that one. -/
def Named (owned : List SlotId) (n slot : SlotId) : Prop :=
  owned[n]? = some slot

namespace Named

variable {owned owned' : List SlotId} {n n' slot : SlotId}

theorem mem (h : Named owned n slot) : slot ∈ owned :=
  List.mem_of_getElem? h

theorem lt (h : Named owned n slot) : n < owned.length :=
  (List.getElem?_eq_some_iff.mp h).1

theorem inj (hnodup : owned.Nodup) (h : Named owned n slot) (h' : Named owned n' slot) :
    n = n' :=
  (List.getElem?_inj h.lt hnodup).mp (h.trans h'.symm)

theorem mono (h : Named owned n slot) (hmore : owned <+: owned') : Named owned' n slot := by
  obtain ⟨more, rfl⟩ := hmore
  rw [Named, List.getElem?_append_left h.lt]
  exact h

end Named

/-- The slot is open, and not one of the identity's. -/
def Apart (r : Registry) (owned : List SlotId) (slot : SlotId) : Prop :=
  slot < r.cells.size ∧ slot ∉ owned

/-- The second registry knows only the identity, and shows its slots in the first. -/
structure Shows (i : Identity) (owned : List SlotId) (r r' : Registry) : Prop where
  size : r'.cells.size = owned.length
  nodup : owned.Nodup
  opened : ∀ {slot}, slot ∈ owned → slot < r.cells.size
  cell : ∀ {n slot}, Named owned n slot → r'.cell n = r.cell slot
  entry : Option.Rel (Named owned) (r'.slot? i) (r.slot? i)
  only : ∀ {key}, key ≠ i.key → r'.slots.get? key = none
  others : ∀ {key slot}, key ≠ i.key → r.slots.get? key = some slot → Apart r owned slot

/-- More slots may have been opened, and some of them for the identity; the others stay so. -/
structure Widens (r : Registry) (owned : List SlotId) (r₁ : Registry) (owned₁ : List SlotId) :
    Prop where
  longer : owned <+: owned₁
  apart : ∀ {slot}, Apart r owned slot → Apart r₁ owned₁ slot

namespace Widens

variable {a b c : Registry} {owned owned₁ owned₂ : List SlotId}

theorem refl (r : Registry) (owned : List SlotId) : Widens r owned r owned :=
  ⟨List.prefix_refl owned, id⟩

theorem trans (h : Widens a owned b owned₁) (h' : Widens b owned₁ c owned₂) :
    Widens a owned c owned₂ :=
  ⟨h.longer.trans h'.longer, fun happart => h'.apart (h.apart happart)⟩

theorem of_size_eq (h : b.cells.size = a.cells.size) : Widens a owned b owned := by
  refine ⟨List.prefix_refl owned, ?_⟩
  intro slot happart
  exact ⟨h ▸ happart.1, happart.2⟩

end Widens

namespace Shows

variable {i j : Identity} {owned : List SlotId} {r r' : Registry} {n slot : SlotId}

theorem empty (i : Identity) : Shows i [] {} {} where
  size := rfl
  nodup := List.nodup_nil
  opened := by simp
  cell := by simp [Named]
  entry := .none
  only := by simp
  others := by simp

/-! ## Moves for the identity -/

theorem mediator?_eq (h : Shows i owned r r') (hn : Named owned n slot) :
    r'.mediator? n = r.mediator? slot := by
  rw [Registry.mediator?, Registry.mediator?, h.cell hn]

theorem owns_eq (h : Shows i owned r r') (hn : Named owned n slot) :
    r'.owns i n = r.owns i slot := by
  rw [Bool.eq_iff_iff, Registry.owns_iff, Registry.owns_iff]
  have hentry := h.entry
  generalize r'.slot? i = o', r.slot? i = o at hentry
  cases hentry with
  | none => simp
  | some hk =>
    rw [Option.some.injEq, Option.some.injEq]
    constructor
    · intro heq
      subst heq
      exact Option.some.inj (hk.symm.trans hn)
    · intro heq
      subst heq
      exact Named.inj h.nodup hk hn

theorem lookup_rel (h : Shows i owned r r') :
    Option.Rel (Named owned) (r'.lookup i) (r.lookup i) := by
  unfold Registry.lookup
  have hentry := h.entry
  generalize r'.slot? i = o', r.slot? i = o at hentry
  cases hentry with
  | none => exact .none
  | some hk =>
    rw [Option.filter_some, Option.filter_some, h.mediator?_eq hk]
    split
    · exact .some hk
    · exact .none

theorem setCell (h : Shows i owned r r') (hn : Named owned n slot) (c : Cell) :
    Shows i owned (r.setCell slot c) (r'.setCell n c) where
  size := by simpa using h.size
  nodup := h.nodup
  opened hk := by simpa using h.opened hk
  entry := h.entry
  only := h.only
  others hkey hslot := by simpa [Apart] using h.others hkey hslot
  cell := by
    intro n' k hk
    rw [Registry.cell_setCell, Registry.cell_setCell, h.cell hk]
    have hiff : (n' = n ∧ n < r'.cells.size) ↔ (k = slot ∧ slot < r.cells.size) := by
      constructor
      · intro heq
        have hslot : k = slot := Option.some.inj (hk.symm.trans (heq.1 ▸ hn))
        exact ⟨hslot, h.opened hn.mem⟩
      · intro heq
        exact ⟨Named.inj h.nodup hk (heq.1 ▸ hn), h.size ▸ hn.lt⟩
    exact if_congr hiff rfl rfl

theorem markReleased (h : Shows i owned r r') (hn : Named owned n slot) :
    Shows i owned (r.markReleased slot) (r'.markReleased n) := by
  unfold Registry.markReleased
  rw [h.cell hn]
  cases r.cell slot with
  | built m => exact h.setCell hn _
  | vacant => exact h
  | building holder queue => exact h

theorem beginClose (h : Shows i owned r r') (hn : Named owned n slot) :
    (r'.beginClose n).1 = (r.beginClose slot).1 ∧
      Shows i owned (r.beginClose slot).2 (r'.beginClose n).2 := by
  unfold Registry.beginClose
  rw [h.mediator?_eq hn]
  cases r.mediator? slot with
  | none => exact ⟨rfl, h⟩
  | some m =>
    dsimp only
    split
    · exact ⟨rfl, h⟩
    · exact ⟨rfl, h.markReleased hn⟩

theorem remove (h : Shows i owned r r') : Shows i owned (r.remove i) (r'.remove i) where
  size := h.size
  nodup := h.nodup
  opened := h.opened
  cell := h.cell
  entry := by
    rw [Registry.slot?, Registry.slot?, Registry.get?_remove, Registry.get?_remove, if_pos rfl,
      if_pos rfl]
    exact .none
  only hkey := by
    rw [Registry.get?_remove, if_neg hkey]
    exact h.only hkey
  others hkey hslot := by
    rw [Registry.get?_remove, if_neg hkey] at hslot
    exact h.others hkey hslot

/-- The next slot is none of those that are open. -/
theorem widens_next (r : Registry) (owned : List SlotId) (i : Identity) :
    Widens r owned
      { cells := r.cells.push .vacant, slots := r.slots.insert i.key r.cells.size }
      (owned ++ [r.cells.size]) := by
  refine ⟨List.prefix_append _ _, ?_⟩
  intro slot happart
  constructor
  · simpa using Nat.lt_succ_of_lt happart.1
  · intro hmem
    rcases List.mem_append.mp hmem with hold | hlast
    · exact happart.2 hold
    · rw [List.mem_singleton.mp hlast] at happart
      exact Nat.lt_irrefl _ happart.1

/-- A slot opened for the identity in both is the next of its slots. -/
theorem next (h : Shows i owned r r') (hr : r.slot? i = none) (hr' : r'.slot? i = none) :
    Shows i (owned ++ [r.cells.size])
      { cells := r.cells.push .vacant, slots := r.slots.insert i.key r.cells.size }
      { cells := r'.cells.push .vacant, slots := r'.slots.insert i.key r'.cells.size } := by
  have hnamed : Named (owned ++ [r.cells.size]) r'.cells.size r.cells.size := by
    rw [Named, h.size]
    simp
  have hcell := r.cell_slotFor i
  have hcell' := r'.cell_slotFor i
  rw [Registry.slotFor_of_none hr] at hcell
  rw [Registry.slotFor_of_none hr'] at hcell'
  have hnew : r.cells.size ∉ owned := fun hmem => Nat.lt_irrefl _ (h.opened hmem)
  constructor
  case size => simp [h.size]
  case nodup =>
    rw [List.nodup_append]
    refine ⟨h.nodup, List.nodup_singleton _, ?_⟩
    intro k hk k' hk' heq
    rw [List.mem_singleton] at hk'
    exact hnew (hk' ▸ heq ▸ hk)
  case opened =>
    intro slot hmem
    rw [Array.size_push]
    rcases List.mem_append.mp hmem with hold | hlast
    · exact Nat.lt_succ_of_lt (h.opened hold)
    · rw [List.mem_singleton.mp hlast]
      exact Nat.lt_succ_self _
  case cell =>
    intro n slot hn
    rw [hcell, hcell']
    by_cases hlt : n < owned.length
    · apply h.cell
      rwa [Named, List.getElem?_append_left hlt] at hn
    · -- the new slot, which is vacant in both
      have hlast : n = owned.length := by
        have hle := hn.lt
        rw [List.length_append, List.length_singleton] at hle
        exact Nat.le_antisymm (Nat.le_of_lt_succ hle) (Nat.le_of_not_lt hlt)
      have hslot : slot = r.cells.size := by
        rw [hlast, ← h.size] at hn
        exact Option.some.inj (hn.symm.trans hnamed)
      have hn' : n = r'.cells.size := hlast.trans h.size.symm
      rw [hslot, hn']
      simp [Registry.cell]
  case entry =>
    rw [Registry.slot?, Registry.slot?, Dictionary.get?_insert, Dictionary.get?_insert, if_pos rfl,
      if_pos rfl]
    exact .some hnamed
  case only =>
    intro key hkey
    rw [Dictionary.get?_insert, if_neg hkey]
    exact h.only hkey
  case others =>
    intro key slot hkey hslot
    rw [Dictionary.get?_insert, if_neg hkey] at hslot
    exact (widens_next r owned i).apart (h.others hkey hslot)

theorem slotFor (h : Shows i owned r r') : ∃ owned₁, Widens r owned (r.slotFor i).2 owned₁ ∧
    Shows i owned₁ (r.slotFor i).2 (r'.slotFor i).2 ∧
    Named owned₁ (r'.slotFor i).1 (r.slotFor i).1 := by
  have hentry := h.entry
  cases hr : r.slot? i with
  | some k =>
    cases hr' : r'.slot? i with
    | none =>
      rw [hr, hr'] at hentry
      cases hentry
    | some n =>
      rw [hr, hr'] at hentry
      rw [Registry.slotFor_of_some hr, Registry.slotFor_of_some hr']
      cases hentry with
      | some hk => exact ⟨owned, Widens.refl r owned, h, hk⟩
  | none =>
    cases hr' : r'.slot? i with
    | some n =>
      rw [hr, hr'] at hentry
      cases hentry
    | none =>
      have hnamed : Named (owned ++ [r.cells.size]) r'.cells.size r.cells.size := by
        rw [Named, h.size]
        simp
      rw [Registry.slotFor_of_none hr, Registry.slotFor_of_none hr']
      exact ⟨owned ++ [r.cells.size], widens_next r owned i, h.next hr hr', hnamed⟩

/-- A release takes everything out of both maps. -/
theorem drained (h : Shows i owned r r') :
    Shows i owned { r with slots := .empty } { r' with slots := .empty } where
  size := h.size
  nodup := h.nodup
  opened := h.opened
  cell := h.cell
  entry := .none
  only := by simp
  others := by simp

/-! ## Moves for other identities -/

theorem setCell_apart (h : Shows i owned r r') (hslot : slot ∉ owned) (c : Cell) :
    Shows i owned (r.setCell slot c) r' where
  size := h.size
  nodup := h.nodup
  opened hk := by simpa using h.opened hk
  cell := by
    intro n k hn
    have hne : k ≠ slot := fun heq => hslot (heq ▸ hn.mem)
    rw [h.cell hn, Registry.cell_setCell_of_ne hne]
  entry := h.entry
  only := h.only
  others hkey hk := by simpa [Apart] using h.others hkey hk

theorem beginClose_apart (h : Shows i owned r r') (hslot : slot ∉ owned) :
    Shows i owned (r.beginClose slot).2 r' := by
  rcases r.beginClose_cases slot with ⟨hsame, -⟩ | hmark
  · rw [hsame]
    exact h
  · rw [hmark, Registry.markReleased]
    cases r.cell slot with
    | built m => exact h.setCell_apart hslot _
    | vacant => exact h
    | building holder queue => exact h

theorem remove_other (h : Shows i owned r r') (hj : j.key ≠ i.key) :
    Shows i owned (r.remove j) r' where
  size := h.size
  nodup := h.nodup
  opened := h.opened
  cell := h.cell
  entry := by
    rw [Registry.slot?, Registry.slot?, Registry.get?_remove, if_neg (Ne.symm hj)]
    exact h.entry
  only := h.only
  others hkey hslot := by
    rw [Registry.get?_remove] at hslot
    split at hslot
    · cases hslot
    · exact h.others hkey hslot

theorem slotFor_other (h : Shows i owned r r') (hj : j.key ≠ i.key) :
    Shows i owned (r.slotFor j).2 r' ∧ Widens r owned (r.slotFor j).2 owned ∧
      Apart (r.slotFor j).2 owned (r.slotFor j).1 := by
  cases hr : r.slot? j with
  | some k =>
    rw [Registry.slotFor_of_some hr]
    exact ⟨h, Widens.refl r owned, h.others hj hr⟩
  | none =>
    have hcell := r.cell_slotFor j
    have hnew : r.cells.size ∉ owned := fun hmem => Nat.lt_irrefl _ (h.opened hmem)
    have hgrown : ∀ {k}, k < r.cells.size → k < (r.cells.push .vacant).size := by
      intro k hk
      rw [Array.size_push]
      exact Nat.lt_succ_of_lt hk
    rw [Registry.slotFor_of_none hr] at hcell
    rw [Registry.slotFor_of_none hr]
    refine ⟨?_, ⟨List.prefix_refl owned, fun happart => ⟨hgrown happart.1, happart.2⟩⟩,
      ⟨by simp, hnew⟩⟩
    constructor
    case size => exact h.size
    case nodup => exact h.nodup
    case opened => exact fun hk => hgrown (h.opened hk)
    case cell =>
      intro n slot hn
      rw [hcell]
      exact h.cell hn
    case entry =>
      rw [Registry.slot?, Registry.slot?, Dictionary.get?_insert, if_neg (Ne.symm hj)]
      exact h.entry
    case only => exact h.only
    case others =>
      intro key slot hkey hslot
      rw [Dictionary.get?_insert] at hslot
      split at hslot
      · cases hslot
        exact ⟨by simp, hnew⟩
      · have happart := h.others hkey hslot
        exact ⟨hgrown happart.1, happart.2⟩

end Shows

end ShadowTraffic
