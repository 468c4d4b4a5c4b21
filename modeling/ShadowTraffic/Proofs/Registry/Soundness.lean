import ShadowTraffic.Proofs.Registry.Shared
import ShadowTraffic.Proofs.Registry.Stretches

/-! # The invariant of a registry in use

A stretch takes its caller out of the idle and suspended ones, changes the registry in a few
elementary moves, and puts the caller back. The invariant holds between any two moves. It is
stated of the registry, of the callers that are suspended meanwhile, and of the slots in hand:
those that the running caller has taken out of the map and is going to close.
-/

namespace ShadowTraffic

/-- The slot is in hand, or a suspended release has it before it. -/
def Due (ongoing : CallerId → Option Ongoing) (held : List SlotId) (slot : SlotId) : Prop :=
  slot ∈ held ∨ ∃ c m rest count, ongoing c = some (.release m rest count) ∧ slot ∈ rest

/-- What holds of a registry in use between any two moves. -/
structure Sound (r : Registry) (ongoing : CallerId → Option Ongoing) (held : List SlotId) :
    Prop where
  opened : ∀ {key slot}, r.slots.get? key = some slot → slot < r.cells.size
  distinct : ∀ {key key' slot},
    r.slots.get? key = some slot → r.slots.get? key' = some slot → key = key'
  /-- A mediator in the map is not released, and stands at its identity's key. -/
  live : ∀ {key slot m}, r.slots.get? key = some slot → r.mediator? slot = some m →
    m.released = false ∧ m.identity.key = key
  /-- A mediator that is not released is in the map or due. -/
  reachable : ∀ {slot m}, r.mediator? slot = some m → m.released = false →
    r.Mapped slot ∨ Due ongoing held slot
  due : ∀ {slot}, Due ongoing held slot → slot < r.cells.size ∧ ¬ r.Mapped slot
  /-- Where a fetch waits or builds, no key but its own leads. -/
  working : ∀ {c q phase slot}, ongoing c = some (.fetch q phase) → phase.slot? = some slot →
    slot < r.cells.size ∧ ∀ key, r.slots.get? key = some slot → key = q.identity.key
  /-- Only the holder of a slot builds in it. -/
  building : ∀ {c q slot span}, ongoing c = some (.fetch q (.building slot span)) →
    ∃ queue, r.cell slot = .building c queue

namespace Sound

variable {r : Registry} {ongoing : CallerId → Option Ongoing} {held : List SlotId}

theorem empty : Sound {} (fun _ => none) [] where
  opened := by simp
  distinct := by simp
  live := by simp
  reachable := by simp [Registry.mediator?, Registry.cell]
  due := by simp [Due]
  working := by simp
  building := by simp

/-! ## Moves on slots -/

theorem slotFor (h : Sound r ongoing held) (i : Identity) :
    Sound (r.slotFor i).2 ongoing held := by
  cases hi : r.slot? i with
  | some slot => rw [Registry.slotFor_of_some hi]; exact h
  | none =>
    have hcell : ∀ slot, (r.slotFor i).2.cell slot = r.cell slot := r.cell_slotFor i
    have hmed : ∀ slot, (r.slotFor i).2.mediator? slot = r.mediator? slot := r.mediator?_slotFor i
    rw [Registry.slotFor_of_none hi] at hcell hmed ⊢
    -- an old slot is led to by the same keys as before
    have hold : ∀ {key slot}, slot < r.cells.size →
        ((r.slots.insert i.key r.cells.size).get? key = some slot ↔
          r.slots.get? key = some slot) := by
      intro key slot hlt
      rw [Dictionary.get?_insert]
      split
      next hkey =>
        have hnone : r.slots.get? key = none := by rw [hkey]; exact hi
        have hne : r.cells.size ≠ slot := by omega
        simp [hnone, hne]
      next => exact Iff.rfl
    have hnew : ∀ {key}, (r.slots.insert i.key r.cells.size).get? key = some r.cells.size →
        key = i.key := by
      intro key hkey
      rw [Dictionary.get?_insert] at hkey
      split at hkey
      next heq => exact heq
      next => exact absurd (h.opened hkey) (Nat.lt_irrefl _)
    have hlt : ∀ {key slot}, (r.slots.insert i.key r.cells.size).get? key = some slot →
        slot = r.cells.size ∨ slot < r.cells.size := by
      intro key slot hkey
      rw [Dictionary.get?_insert] at hkey
      split at hkey
      next => exact .inl (by simpa using hkey.symm)
      next => exact .inr (h.opened hkey)
    constructor
    · intro key slot hkey
      rcases hlt hkey with rfl | hslot
      · simp
      · exact Nat.lt_of_lt_of_le hslot (by simp)
    · intro key key' slot hkey hkey'
      rcases hlt hkey with rfl | hslot
      · rw [hnew hkey, hnew hkey']
      · exact h.distinct ((hold hslot).mp hkey) ((hold hslot).mp hkey')
    · intro key slot m hkey hm
      rw [hmed] at hm
      have hslot : slot < r.cells.size := Registry.cell_lt (by
        rw [Registry.mediator?_eq_some.mp hm]; simp)
      exact h.live ((hold hslot).mp hkey) hm
    · intro slot m hm hreleased
      rw [hmed] at hm
      rcases h.reachable hm hreleased with ⟨key, hkey⟩ | hdue
      · exact .inl ⟨key, (hold (h.opened hkey)).mpr hkey⟩
      · exact .inr hdue
    · intro slot hdue
      obtain ⟨hslot, hmapped⟩ := h.due hdue
      refine ⟨Nat.lt_of_lt_of_le hslot (by simp), ?_⟩
      rintro ⟨key, hkey⟩
      exact hmapped ⟨key, (hold hslot).mp hkey⟩
    · intro c q phase slot hc hphase
      obtain ⟨hslot, hkeys⟩ := h.working hc hphase
      refine ⟨Nat.lt_of_lt_of_le hslot (by simp), ?_⟩
      intro key hkey
      exact hkeys key ((hold hslot).mp hkey)
    · intro c q slot span hc
      rw [hcell]
      exact h.building hc

/-- A cell without a mediator changes into another without one. -/
theorem setCell {slot : SlotId} {cell : Cell} (h : Sound r ongoing held)
    (hempty : r.mediator? slot = none) (hcell : ∀ m, cell ≠ .built m)
    (hbuilding : ∀ {c q span}, ongoing c = some (.fetch q (.building slot span)) →
      ∃ queue, cell = .building c queue) :
    Sound (r.setCell slot cell) ongoing held := by
  have hmed : ∀ {other m}, (r.setCell slot cell).mediator? other = some m →
      r.mediator? other = some m := by
    intro other m hm
    rw [Registry.mediator?_eq_some, Registry.cell_setCell] at hm
    split at hm
    next => exact absurd hm (hcell m)
    next => exact Registry.mediator?_eq_some.mpr hm
  constructor
  · intro key other hkey
    simpa using h.opened hkey
  · exact h.distinct
  · intro key other m hkey hm
    exact h.live hkey (hmed hm)
  · intro other m hm hreleased
    exact h.reachable (hmed hm) hreleased
  · intro other hdue
    simpa [Registry.Mapped] using h.due hdue
  · intro c q phase other hc hphase
    simpa using h.working hc hphase
  · intro c q other span hc
    rw [Registry.cell_setCell]
    split
    next heq =>
      obtain ⟨rfl, -⟩ := heq
      exact hbuilding hc
    next => exact h.building hc

/-- A slot that nobody builds in is filled. -/
theorem fill {slot : SlotId} {m : Mediator} (h : Sound r ongoing held)
    (hslot : slot < r.cells.size) (hreleased : m.released = false)
    (hkey : ∀ key, r.slots.get? key = some slot → m.identity.key = key)
    (hreach : r.Mapped slot ∨ Due ongoing held slot)
    (hfree : ∀ {c q span}, ongoing c ≠ some (.fetch q (.building slot span))) :
    Sound (r.setCell slot (.built m)) ongoing held := by
  have hmed : ∀ {other m'}, (r.setCell slot (.built m)).mediator? other = some m' →
      (other = slot ∧ m' = m) ∨ r.mediator? other = some m' := by
    intro other m' hm
    rw [Registry.mediator?_eq_some, Registry.cell_setCell] at hm
    split at hm
    next heq => exact .inl ⟨heq.1, by simpa using hm.symm⟩
    next => exact .inr (Registry.mediator?_eq_some.mpr hm)
  constructor
  · intro key other hkey
    simpa using h.opened hkey
  · exact h.distinct
  · intro key other m' hother hm
    rcases hmed hm with ⟨rfl, rfl⟩ | hm
    · exact ⟨hreleased, hkey key hother⟩
    · exact h.live hother hm
  · intro other m' hm hm'
    rcases hmed hm with ⟨rfl, rfl⟩ | hm
    · exact hreach
    · exact h.reachable hm hm'
  · intro other hdue
    simpa [Registry.Mapped] using h.due hdue
  · intro c q phase other hc hphase
    simpa using h.working hc hphase
  · intro c q other span hc
    obtain ⟨queue, hqueue⟩ := h.building hc
    have hne : other ≠ slot := fun heq => hfree (heq ▸ hc)
    exact ⟨queue, by rw [Registry.cell_setCell_of_ne hne, hqueue]⟩

/-- The release flag of an orphan may be set. -/
theorem markReleased {slot : SlotId} (h : Sound r ongoing held) (horphan : ¬ r.Mapped slot) :
    Sound (r.markReleased slot) ongoing held := by
  constructor
  · intro key other hkey
    simpa using h.opened (by simpa using hkey)
  · intro key key' other hkey hkey'
    exact h.distinct (by simpa using hkey) (by simpa using hkey')
  · intro key other m hkey hm
    rw [Registry.slots_markReleased] at hkey
    have hne : other ≠ slot := fun heq => horphan ⟨key, heq ▸ hkey⟩
    exact h.live hkey (by simpa [Registry.mediator?_markReleased, hne] using hm)
  · intro other m hm hreleased
    rw [Registry.mediator?_markReleased] at hm
    obtain ⟨m', hm', rfl⟩ := Option.map_eq_some_iff.mp hm
    by_cases hother : other = slot
    · simp [hother] at hreleased
    · simp only [hother, if_false] at hreleased
      simpa [Registry.Mapped] using h.reachable hm' hreleased
  · intro other hdue
    simpa [Registry.Mapped] using h.due hdue
  · intro c q phase other hc hphase
    simpa using h.working hc hphase
  · intro c q other span hc
    obtain ⟨queue, hqueue⟩ := h.building hc
    exact ⟨queue, Registry.cell_markReleased_building.mpr hqueue⟩

/-! ## Moves on the map -/

/-- Taking a slot out of the map puts it in hand. -/
theorem remove {i : Identity} {slot : SlotId} (h : Sound r ongoing held)
    (hslot : r.slot? i = some slot) : Sound (r.remove i) ongoing (slot :: held) := by
  have hget : ∀ {key other}, (r.remove i).slots.get? key = some other →
      key ≠ i.key ∧ r.slots.get? key = some other := by
    intro key other hkey
    rw [Registry.get?_remove] at hkey
    split at hkey
    next => cases hkey
    next hne => exact ⟨hne, hkey⟩
  constructor
  · intro key other hkey
    exact h.opened (hget hkey).2
  · intro key key' other hkey hkey'
    exact h.distinct (hget hkey).2 (hget hkey').2
  · intro key other m hkey hm
    exact h.live (hget hkey).2 hm
  · intro other m hm hreleased
    rcases h.reachable hm hreleased with ⟨key, hkey⟩ | hdue
    · by_cases hi : key = i.key
      · have heq : other = slot := by
          rw [hi] at hkey
          exact Option.some.inj (hkey.symm.trans hslot)
        exact .inr (.inl (by simp [heq]))
      · exact .inl ⟨key, by rw [Registry.get?_remove, if_neg hi]; exact hkey⟩
    · exact .inr (hdue.imp (List.mem_cons_of_mem _) id)
  · intro other hdue
    have hcase : other = slot ∨ Due ongoing held other := by
      rcases hdue with hmem | hrest
      · exact (List.mem_cons.mp hmem).imp id .inl
      · exact .inr (.inr hrest)
    rcases hcase with rfl | hdue
    · refine ⟨h.opened hslot, ?_⟩
      rintro ⟨key, hkey⟩
      exact (hget hkey).1 (h.distinct (hget hkey).2 hslot)
    · obtain ⟨hlt, hmapped⟩ := h.due hdue
      refine ⟨hlt, ?_⟩
      rintro ⟨key, hkey⟩
      exact hmapped ⟨key, (hget hkey).2⟩
  · intro c q phase other hc hphase
    obtain ⟨hlt, hkeys⟩ := h.working hc hphase
    exact ⟨hlt, fun key hkey => hkeys key (hget hkey).2⟩
  · exact h.building

/-- Emptying the map puts all its slots in hand. -/
theorem drained (h : Sound r ongoing held) :
    Sound { r with slots := .empty } ongoing (r.slots.entries.map (·.2) ++ held) := by
  have hmem : ∀ {slot}, slot ∈ r.slots.entries.map (·.2) ↔ r.Mapped slot := by
    intro slot
    simp [Registry.Mapped, Dictionary.get?_eq_some]
  constructor
  · intro key slot hkey
    simp at hkey
  · intro key key' slot hkey
    simp at hkey
  · intro key slot m hkey
    simp at hkey
  · intro slot m hm hreleased
    rcases h.reachable hm hreleased with hmapped | hdue
    · exact .inr (.inl (List.mem_append_left _ (hmem.mpr hmapped)))
    · exact .inr (hdue.imp (List.mem_append_right _) id)
  · intro slot hdue
    refine ⟨?_, by simp [Registry.Mapped]⟩
    rcases hdue with hheld | hrest
    · rcases List.mem_append.mp hheld with hslot | hslot
      · obtain ⟨key, hkey⟩ := hmem.mp hslot
        exact h.opened hkey
      · exact (h.due (.inl hslot)).1
    · exact (h.due (.inr hrest)).1
  · intro c q phase slot hc hphase
    exact ⟨(h.working hc hphase).1, by simp⟩
  · exact h.building

/-! ## Slots in hand -/

theorem hold {slot : SlotId} (h : Sound r ongoing held) (hslot : slot < r.cells.size)
    (horphan : ¬ r.Mapped slot) : Sound r ongoing (slot :: held) where
  opened := h.opened
  distinct := h.distinct
  live := h.live
  reachable hm hreleased :=
    (h.reachable hm hreleased).imp id (Or.imp (List.mem_cons_of_mem _) id)
  due := by
    rintro other (hmem | hrest)
    · rcases List.mem_cons.mp hmem with rfl | hmem
      · exact ⟨hslot, horphan⟩
      · exact h.due (.inl hmem)
    · exact h.due (.inr hrest)
  working := h.working
  building := h.building

/-- A slot without an unreleased mediator needs no closing. -/
theorem letGo {slot : SlotId} (h : Sound r ongoing (slot :: held))
    (hclosed : ∀ m, r.mediator? slot = some m → m.released = true) : Sound r ongoing held where
  opened := h.opened
  distinct := h.distinct
  live := h.live
  reachable := by
    intro other m hm hreleased
    rcases h.reachable hm hreleased with hmapped | hheld | hrest
    · exact .inl hmapped
    · rcases List.mem_cons.mp hheld with rfl | hheld
      · rw [hclosed m hm] at hreleased
        cases hreleased
      · exact .inr (.inl hheld)
    · exact .inr (.inr hrest)
  due hdue := h.due (hdue.imp (List.mem_cons_of_mem _) id)
  working := h.working
  building := h.building

/-- What a slot in hand holds is closed. -/
theorem beginClose {slot : SlotId} (h : Sound r ongoing (slot :: held)) :
    Sound (r.beginClose slot).2 ongoing held := by
  have horphan : ¬ r.Mapped slot := (h.due (.inl List.mem_cons_self)).2
  rcases r.beginClose_cases slot with ⟨hsame, hclosed⟩ | hmark
  · rw [hsame]
    exact h.letGo hclosed
  · rw [hmark]
    refine (h.markReleased horphan).letGo ?_
    intro m hm
    rw [Registry.mediator?_markReleased] at hm
    obtain ⟨m', -, rfl⟩ := Option.map_eq_some_iff.mp hm
    simp

end Sound

end ShadowTraffic
