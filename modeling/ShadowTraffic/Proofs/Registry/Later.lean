import ShadowTraffic.Proofs.Registry.Preservation

/-! # What stays as a registry is used

A slot stays open, no key comes to lead to a slot that was open before, so that an orphan stays an
orphan, and a mediator stays in its slot: at most its release flag is set.
-/

namespace ShadowTraffic

structure Registry.Later (r r' : Registry) : Prop where
  size_le : r.cells.size ≤ r'.cells.size
  old : ∀ {key slot}, slot < r.cells.size → r'.slots.get? key = some slot →
    r.slots.get? key = some slot
  kept : ∀ {slot m}, r.mediator? slot = some m →
    r'.mediator? slot = some m ∨ r'.mediator? slot = some { m with released := true }

namespace Registry.Later

variable {a b c r : Registry}

theorem refl (r : Registry) : Later r r :=
  ⟨Nat.le_refl _, fun _ hkey => hkey, .inl⟩

theorem trans (h : Later a b) (h' : Later b c) : Later a c where
  size_le := Nat.le_trans h.size_le h'.size_le
  old hlt hkey := h.old hlt (h'.old (Nat.lt_of_lt_of_le hlt h.size_le) hkey)
  kept := by
    intro slot m hm
    rcases h.kept hm with hm | hm
    · exact h'.kept hm
    · exact .inr (by simpa using h'.kept hm)

theorem orphan (h : Later a b) {slot : SlotId} (hlt : slot < a.cells.size)
    (horphan : ¬ a.Mapped slot) : ¬ b.Mapped slot := by
  rintro ⟨key, hkey⟩
  exact horphan ⟨key, h.old hlt hkey⟩

/-! ## Mediators that stay -/

theorem released (h : Later a b) {slot : SlotId} {m : Mediator}
    (hm : a.mediator? slot = some m) (hreleased : m.released = true) :
    ∃ m', b.mediator? slot = some m' ∧ m'.released = true := by
  rcases h.kept hm with hm | hm
  · exact ⟨m, hm, hreleased⟩
  · exact ⟨_, hm, rfl⟩

theorem filling (h : Later a b) {slot : SlotId} {m : Mediator} (hm : a.filling? slot = some m) :
    b.filling? slot = some m := by
  obtain ⟨m', hm', rfl⟩ := Option.map_eq_some_iff.mp hm
  rcases h.kept hm' with hkept | hkept
  · simp [filling?, hkept]
  · simp [filling?, hkept, Mediator.asBuilt]

/-! ## Moves -/

theorem setCell {r : Registry} {slot : SlotId} (h : r.mediator? slot = none) (cell : Cell) :
    Later r (r.setCell slot cell) where
  size_le := by simp
  old _ hkey := hkey
  kept := by
    intro other m hm
    have hne : other ≠ slot := by
      rintro rfl
      rw [h] at hm
      cases hm
    exact .inl (by simpa [mediator?, cell_setCell_of_ne hne] using hm)

theorem markReleased (r : Registry) (slot : SlotId) : Later r (r.markReleased slot) where
  size_le := by simp
  old _ hkey := by simpa using hkey
  kept := by
    intro other m hm
    rw [mediator?_markReleased, hm]
    by_cases hother : other = slot
    · exact .inr (by simp [hother])
    · exact .inl (by simp [hother])

theorem beginClose (r : Registry) (slot : SlotId) : Later r (r.beginClose slot).2 := by
  rcases r.beginClose_cases slot with ⟨hsame, -⟩ | hmark
  · rw [hsame]
    exact refl r
  · rw [hmark]
    exact markReleased r slot

theorem slotFor (r : Registry) (i : Identity) : Later r (r.slotFor i).2 where
  size_le := r.size_cells_slotFor i
  kept hm := .inl (by simpa using hm)
  old := by
    intro key slot hlt hkey
    rw [get?_slotFor] at hkey
    split at hkey
    next heq =>
      cases hi : r.slot? i with
      | some k =>
        rw [slotFor_of_some hi] at hkey
        cases hkey
        rw [heq]
        exact hi
      | none =>
        rw [slotFor_of_none hi] at hkey
        cases hkey
        exact absurd hlt (Nat.lt_irrefl _)
    next => exact hkey

theorem remove (r : Registry) (i : Identity) : Later r (r.remove i) where
  size_le := Nat.le_refl _
  kept hm := .inl hm
  old := by
    intro key slot _ hkey
    rw [get?_remove] at hkey
    split at hkey
    next => cases hkey
    next => exact hkey

theorem drained (r : Registry) : Later r { r with slots := .empty } where
  size_le := Nat.le_refl _
  kept hm := .inl hm
  old _ hkey := by simp at hkey

/-! ## Stretches -/

theorem attempt (r : Registry) (c : CallerId) (q : Request) (fresh : SpanId) :
    Later r (Fetch.attempt r c q fresh).registry := by
  have hopen := slotFor r q.identity
  rcases Fetch.attempt_cases r c q fresh with
    ⟨-, hreg, -⟩ | ⟨hcell, hreg, -⟩ | ⟨_, _, hcell, hreg, -⟩
  · rw [hreg]
    exact hopen
  · rw [hreg]
    exact hopen.trans (setCell (mediator?_of_vacant hcell) _)
  · rw [hreg]
    exact hopen.trans (setCell (mediator?_of_building hcell) _)

theorem settle (r : Registry) (c : CallerId) (q : Request) (fresh : SpanId) (slot : SlotId)
    (constructed : Bool) : Later r (Fetch.settle r c q fresh slot constructed).registry := by
  have hclose := beginClose r slot
  rcases Fetch.settle_cases r c q fresh slot constructed with
    ⟨-, hreg, -⟩ | ⟨-, hreg, -⟩ | ⟨-, hreg, -⟩
  · rw [hreg]
    exact refl r
  · rw [hreg]
    exact hclose.trans (attempt _ c q fresh)
  · rw [hreg]
    exact hclose

theorem start (r : Registry) (c : CallerId) (q : Request) (fresh : SpanId) :
    Later r (Fetch.start r c q fresh).registry := by
  rcases Fetch.start_cases r c q fresh with ⟨_, -, hreg, -⟩ | ⟨-, heq⟩
  · rw [hreg]
    exact refl r
  · rw [heq]
    exact attempt r c q fresh

theorem resume (r : Registry) (c : CallerId) (q : Request) (fresh : SpanId) (slot : SlotId) :
    Later r (Fetch.resume r c q fresh slot).registry := by
  rcases Fetch.resume_cases r c q fresh slot with ⟨-, heq⟩ | ⟨_, -, hreg, -⟩ |
    ⟨_, _, -, -, hreg, -⟩ | ⟨hcell, hreg, -⟩
  · rw [heq]
    exact settle r c q fresh slot false
  · rw [hreg]
    exact refl r
  · rw [hreg]
    exact refl r
  · rw [hreg]
    exact setCell (mediator?_of_vacant hcell) _

theorem abandon {r : Registry} {c : CallerId} {phase : FetchPhase}
    (h : ∀ {slot span}, phase = .building slot span → ∃ queue, r.cell slot = .building c queue) :
    Later r (Fetch.abandon r c phase).registry := by
  rcases Fetch.abandon_empty h with hreg | ⟨slot, cell, hreg, hempty, -⟩
  · rw [hreg]
    exact refl r
  · rw [hreg]
    exact setCell hempty cell

theorem invalidate (r : Registry) (i : Identity) : Later r (Invalidate.start r i).registry := by
  rcases Invalidate.start_cases r i with ⟨-, hreg, -⟩ | ⟨slot, -, hreg, -⟩
  · rw [hreg]
    exact refl r
  · rw [hreg]
    exact (remove r i).trans (beginClose _ slot)

theorem drain (r : Registry) (count : Nat) (slots : List SlotId) :
    Later r (Release.drain r count slots).registry := by
  induction slots generalizing r count with
  | nil => exact refl r
  | cons slot rest ih =>
    have hclose := beginClose r slot
    rcases Release.drain_cons r count slot rest with ⟨count', hreg, -⟩ | ⟨hreg, -⟩
    · rw [hreg]
      exact hclose.trans (ih _ count')
    · rw [hreg]
      exact hclose

theorem stretch {s : Shared} {held : List SlotId} {c : CallerId} {a : Action}
    {st : Stretch Outcome} (h : s.Sound held) (ht : Shared.Takes s c a st) :
    Later s.registry st.registry := by
  cases ht with
  | fetch q idle => exact start _ c q s.spans
  | lookup i idle => exact refl _
  | invalidate i idle => exact invalidate _ i
  | release idle => exact (drained s.registry).trans (drain _ 0 _)
  | @resume q slot here => exact resume _ c q s.spans slot
  | @built q slot span p here =>
    obtain ⟨queue, hcell⟩ := h.building here
    have hfill := setCell (mediator?_of_building hcell) (.built (q.filling p))
    exact hfill.trans (settle _ c q s.spans slot true)
  | @closed q slot m failure here => exact attempt _ c q s.spans
  | @abandon q phase here => exact abandon fun hphase => h.building (hphase ▸ here)
  | invalidated failure here => exact refl _
  | abandonInvalidation here => exact refl _
  | @released m rest count failure here => exact drain _ count rest
  | abandonRelease here => exact refl _

end Registry.Later

namespace Shared

variable {s : Shared} {held : List SlotId}

theorem Sound.later_step {c : CallerId} {a : Action} {t : Transition} (h : s.Sound held)
    (ht : s.step c a = some t) : s.registry.Later t.after.registry := by
  obtain ⟨-, -, -, st, htakes, -, hafter⟩ := step_spec ht
  rw [hafter]
  exact .stretch h htakes

theorem Sound.later_run (h : s.Sound held) (schedule : Schedule) :
    s.registry.Later (s.run schedule).final.registry := by
  induction schedule generalizing s held with
  | nil => exact .refl _
  | cons e schedule ih =>
    obtain ⟨c, a⟩ := e
    cases hstep : s.step c a with
    | none => simpa only [run_cons_none hstep] using ih h
    | some t =>
      rw [run_cons_some hstep]
      exact (h.later_step hstep).trans (ih (h.step hstep))

end Shared

end ShadowTraffic
