import ShadowTraffic.Registry.Operation

/-! # Views of a registry

What the operations on slots do, told through three views: the cell of every slot, what every slot
was filled with, and the slot at every key of the map. The slots in the map are those that some
key leads to; a slot that none leads to is an orphan.
-/

namespace ShadowTraffic

/-- A mediator as it was built, its release flag down. -/
def Mediator.asBuilt (m : Mediator) : Mediator := { m with released := false }

/-- What a caller's build fills its slot with. -/
def Request.filling (q : Request) (p : Provision) : Mediator where
  identity := q.identity
  config := q.config
  business := q.business
  shadow := p.handle?

/-- The slot a fetch waits for or builds in. -/
def FetchPhase.slot? : FetchPhase → Option SlotId
  | .waiting slot => some slot
  | .building slot _ => some slot
  | .closing .. => none

namespace Registry

/-- Some key of the map leads to the slot. -/
def Mapped (r : Registry) (slot : SlotId) : Prop :=
  ∃ key, r.slots.get? key = some slot

/-- What a slot was filled with, whether released since or not. -/
def filling? (r : Registry) (slot : SlotId) : Option Mediator :=
  (r.mediator? slot).map Mediator.asBuilt

/-! ## Cells -/

theorem mediator?_eq_some {r : Registry} {slot : SlotId} {m : Mediator} :
    r.mediator? slot = some m ↔ r.cell slot = .built m := by
  unfold mediator?
  split <;> simp_all

theorem mediator?_of_building {r : Registry} {slot : SlotId} {holder : CallerId}
    {queue : List CallerId} (h : r.cell slot = .building holder queue) :
    r.mediator? slot = none := by
  simp [mediator?, h]

theorem mediator?_of_vacant {r : Registry} {slot : SlotId} (h : r.cell slot = .vacant) :
    r.mediator? slot = none := by
  simp [mediator?, h]

theorem filling?_eq_none {r : Registry} {slot : SlotId} :
    r.filling? slot = none ↔ r.mediator? slot = none := by
  simp [filling?]

theorem filling?_of_mediator? {r : Registry} {slot : SlotId} {m : Mediator}
    (h : r.mediator? slot = some m) : r.filling? slot = some m.asBuilt := by
  simp [filling?, h]

theorem cell_setCell (r : Registry) (slot other : SlotId) (c : Cell) :
    (r.setCell slot c).cell other =
      if other = slot ∧ slot < r.cells.size then c else r.cell other := by
  simp only [cell, setCell, Array.getElem?_setIfInBounds]
  by_cases h : slot = other
  · subst h
    by_cases hlt : slot < r.cells.size
    · simp [hlt]
    · simp [hlt]
  · simp [h, Ne.symm h]

theorem cell_setCell_self {r : Registry} {slot : SlotId} (h : slot < r.cells.size) (c : Cell) :
    (r.setCell slot c).cell slot = c := by
  simp [cell_setCell, h]

theorem cell_setCell_of_ne {r : Registry} {slot other : SlotId} (h : other ≠ slot) (c : Cell) :
    (r.setCell slot c).cell other = r.cell other := by
  simp [cell_setCell, h]

@[simp] theorem slots_setCell (r : Registry) (slot : SlotId) (c : Cell) :
    (r.setCell slot c).slots = r.slots := rfl

@[simp] theorem size_cells_setCell (r : Registry) (slot : SlotId) (c : Cell) :
    (r.setCell slot c).cells.size = r.cells.size := by
  simp [setCell]

/-- A cell without a mediator may change into another without one. -/
theorem filling?_setCell {r : Registry} {slot : SlotId} {c : Cell} (h : r.filling? slot = none)
    (hc : ∀ m, c ≠ .built m) (other : SlotId) :
    (r.setCell slot c).filling? other = r.filling? other := by
  by_cases hother : other = slot ∧ slot < r.cells.size
  · obtain ⟨rfl, hlt⟩ := hother
    rw [h, filling?_eq_none, mediator?, cell_setCell_self hlt]
    cases c with
    | built m => exact absurd rfl (hc m)
    | vacant => rfl
    | building holder queue => rfl
  · simp only [filling?, mediator?, cell_setCell, if_neg hother]

theorem filling?_setCell_built {r : Registry} {slot : SlotId} (h : slot < r.cells.size)
    (m : Mediator) (other : SlotId) :
    (r.setCell slot (.built m)).filling? other =
      if other = slot then some m.asBuilt else r.filling? other := by
  by_cases ho : other = slot
  · subst ho
    simp [filling?, mediator?, cell_setCell_self h]
  · simp [filling?, mediator?, cell_setCell_of_ne ho, ho]

/-! ## Release flags -/

@[simp] theorem slots_markReleased (r : Registry) (slot : SlotId) :
    (r.markReleased slot).slots = r.slots := by
  unfold markReleased
  split <;> rfl

@[simp] theorem size_cells_markReleased (r : Registry) (slot : SlotId) :
    (r.markReleased slot).cells.size = r.cells.size := by
  unfold markReleased
  split <;> simp

theorem cell_lt {r : Registry} {slot : SlotId} (h : r.cell slot ≠ .vacant) :
    slot < r.cells.size := by
  by_cases hlt : slot < r.cells.size
  · exact hlt
  · exact absurd (by simp [cell, hlt]) h

theorem lt_of_filling? {r : Registry} {slot : SlotId} {m : Mediator}
    (h : r.filling? slot = some m) : slot < r.cells.size := by
  obtain ⟨m', hm', -⟩ := Option.map_eq_some_iff.mp h
  exact cell_lt (by rw [mediator?_eq_some.mp hm']; nofun)

theorem cell_markReleased (r : Registry) (slot other : SlotId) :
    (r.markReleased slot).cell other =
      match r.cell other with
      | .built m => .built (if other = slot then { m with released := true } else m)
      | c => c := by
  unfold markReleased
  cases h : r.cell slot with
  | built m =>
    have hlt : slot < r.cells.size := cell_lt (by simp [h])
    by_cases ho : other = slot
    · subst ho
      simp [cell_setCell_self hlt, h]
    · simp only [cell_setCell_of_ne ho, ho, if_false]
      cases r.cell other <;> rfl
  | vacant =>
    by_cases ho : other = slot
    · subst ho
      simp [h]
    · simp only [ho, if_false]
      cases r.cell other <;> rfl
  | building holder queue =>
    by_cases ho : other = slot
    · subst ho
      simp [h]
    · simp only [ho, if_false]
      cases r.cell other <;> rfl

theorem mediator?_markReleased (r : Registry) (slot other : SlotId) :
    (r.markReleased slot).mediator? other =
      (r.mediator? other).map fun m => if other = slot then { m with released := true } else m := by
  simp only [mediator?, cell_markReleased]
  cases r.cell other <;> rfl

theorem cell_markReleased_building {r : Registry} {slot other : SlotId} {holder : CallerId}
    {queue : List CallerId} :
    (r.markReleased slot).cell other = .building holder queue ↔
      r.cell other = .building holder queue := by
  rw [cell_markReleased]
  cases r.cell other <;> simp

@[simp] theorem filling?_markReleased (r : Registry) (slot other : SlotId) :
    (r.markReleased slot).filling? other = r.filling? other := by
  simp only [filling?, mediator?_markReleased, Option.map_map]
  congr 1
  funext m
  simp only [Function.comp_apply]
  split <;> rfl

/-! ## The map -/

/-- A slot opened for an identity is vacant, and the identity's key leads to it. -/
theorem slotFor_of_none {r : Registry} {i : Identity} (h : r.slot? i = none) :
    r.slotFor i = (r.cells.size,
      { cells := r.cells.push .vacant, slots := r.slots.insert i.key r.cells.size }) := by
  simp [slotFor, h]

theorem slotFor_of_some {r : Registry} {i : Identity} {slot : SlotId}
    (h : r.slot? i = some slot) : r.slotFor i = (slot, r) := by
  simp [slotFor, h]

@[simp] theorem cell_slotFor (r : Registry) (i : Identity) (slot : SlotId) :
    (r.slotFor i).2.cell slot = r.cell slot := by
  cases h : r.slot? i with
  | some k => rw [slotFor_of_some h]
  | none =>
    rw [slotFor_of_none h]
    simp only [cell, Array.getElem?_push]
    split
    next hs => simp [hs]
    next => rfl

@[simp] theorem mediator?_slotFor (r : Registry) (i : Identity) (slot : SlotId) :
    (r.slotFor i).2.mediator? slot = r.mediator? slot := by
  simp [mediator?]

@[simp] theorem filling?_slotFor (r : Registry) (i : Identity) (slot : SlotId) :
    (r.slotFor i).2.filling? slot = r.filling? slot := by
  simp [filling?]

theorem get?_slotFor (r : Registry) (i : Identity) (key : String) :
    (r.slotFor i).2.slots.get? key =
      if key = i.key then some (r.slotFor i).1 else r.slots.get? key := by
  cases h : r.slot? i with
  | some k =>
    rw [slotFor_of_some h]
    split
    next hkey => rw [hkey]; exact h
    next => rfl
  | none =>
    rw [slotFor_of_none h]
    simp

theorem slot?_slotFor (r : Registry) (i : Identity) :
    (r.slotFor i).2.slot? i = some (r.slotFor i).1 := by
  simp [slot?, get?_slotFor]

theorem size_cells_slotFor (r : Registry) (i : Identity) :
    r.cells.size ≤ (r.slotFor i).2.cells.size := by
  cases h : r.slot? i with
  | some k => simp [slotFor_of_some h]
  | none => simp [slotFor_of_none h]

@[simp] theorem filling?_remove (r : Registry) (i : Identity) (slot : SlotId) :
    (r.remove i).filling? slot = r.filling? slot := rfl

theorem get?_remove (r : Registry) (i : Identity) (key : String) :
    (r.remove i).slots.get? key = if key = i.key then none else r.slots.get? key := by
  simp [remove]

theorem owns_iff {r : Registry} {i : Identity} {slot : SlotId} :
    r.owns i slot = true ↔ r.slot? i = some slot := by
  simp [owns]

theorem lookup_eq_some {r : Registry} {i : Identity} {slot : SlotId} :
    r.lookup i = some slot ↔ r.slot? i = some slot ∧ (r.mediator? slot).isSome = true := by
  simp [lookup, Option.filter_eq_some_iff]

/-! ## Closing -/

@[simp] theorem slots_beginClose (r : Registry) (slot : SlotId) :
    (r.beginClose slot).2.slots = r.slots := by
  unfold beginClose
  split
  · rfl
  · split <;> simp

@[simp] theorem filling?_beginClose (r : Registry) (slot other : SlotId) :
    (r.beginClose slot).2.filling? other = r.filling? other := by
  unfold beginClose
  split
  · rfl
  · split <;> simp

/-- Beginning to close a slot changes nothing or sets the release flag of what it holds. -/
theorem beginClose_cases (r : Registry) (slot : SlotId) :
    ((r.beginClose slot).2 = r ∧ ∀ m, r.mediator? slot = some m → m.released = true) ∨
      (r.beginClose slot).2 = r.markReleased slot := by
  unfold beginClose
  split
  next h => exact .inl ⟨rfl, by simp [h]⟩
  next m h =>
    split
    next hm => exact .inl ⟨rfl, by simpa [h] using hm⟩
    next => exact .inr rfl

end Registry

end ShadowTraffic
