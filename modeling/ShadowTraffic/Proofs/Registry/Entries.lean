import ShadowTraffic.Proofs.Registry.Answers

/-! # Entries that stay

Only a release and an invalidation take entries out of the map. While the entry of an identity
stays, everybody who asks for that identity waits for its slot or builds in it.
-/

namespace ShadowTraffic

/-- Every key leads where it led before. -/
def Registry.Keeps (r r' : Registry) : Prop :=
  ∀ key slot, r.slots.get? key = some slot → r'.slots.get? key = some slot

namespace Registry.Keeps

variable {a b d r : Registry}

theorem refl (r : Registry) : Keeps r r :=
  fun _ _ hkey => hkey

theorem trans (h : Keeps a b) (h' : Keeps b d) : Keeps a d :=
  fun key slot hkey => h' key slot (h key slot hkey)

theorem of_slots_eq (h : b.slots = a.slots) : Keeps a b :=
  fun _ _ hkey => by rw [h]; exact hkey

theorem slotFor (r : Registry) (i : Identity) : Keeps r (r.slotFor i).2 := by
  intro key slot hkey
  rw [get?_slotFor]
  split
  next heq =>
    have hslot : r.slot? i = some slot := by rw [slot?, ← heq]; exact hkey
    rw [slotFor_of_some hslot]
  next => exact hkey

theorem attempt (r : Registry) (c : CallerId) (q : Request) (fresh : SpanId) :
    Keeps r (Fetch.attempt r c q fresh).registry := by
  have hopen := slotFor r q.identity
  rcases Fetch.attempt_cases r c q fresh with ⟨-, hreg, -⟩ | ⟨-, hreg, -⟩ | ⟨_, _, -, hreg, -⟩
  · rw [hreg]
    exact hopen
  · rw [hreg]
    exact hopen
  · rw [hreg]
    exact hopen

theorem settle (r : Registry) (c : CallerId) (q : Request) (fresh : SpanId) (slot : SlotId)
    (constructed : Bool) : Keeps r (Fetch.settle r c q fresh slot constructed).registry := by
  have hclose : Keeps r (r.beginClose slot).2 := of_slots_eq (by simp)
  rcases Fetch.settle_cases r c q fresh slot constructed with
    ⟨-, hreg, -⟩ | ⟨-, hreg, -⟩ | ⟨-, hreg, -⟩
  · rw [hreg]
    exact refl r
  · rw [hreg]
    exact hclose.trans (attempt _ c q fresh)
  · rw [hreg]
    exact hclose

theorem start (r : Registry) (c : CallerId) (q : Request) (fresh : SpanId) :
    Keeps r (Fetch.start r c q fresh).registry := by
  rcases Fetch.start_cases r c q fresh with ⟨_, -, hreg, -⟩ | ⟨-, hattempt⟩
  · rw [hreg]
    exact refl r
  · rw [hattempt]
    exact attempt r c q fresh

theorem resume (r : Registry) (c : CallerId) (q : Request) (fresh : SpanId) (slot : SlotId) :
    Keeps r (Fetch.resume r c q fresh slot).registry := by
  rcases Fetch.resume_cases r c q fresh slot with ⟨-, hsettle⟩ | ⟨_, -, hreg, -⟩ |
    ⟨_, _, -, -, hreg, -⟩ | ⟨-, hreg, -⟩
  · rw [hsettle]
    exact settle r c q fresh slot false
  · rw [hreg]
    exact refl r
  · rw [hreg]
    exact refl r
  · rw [hreg]
    exact refl r

theorem abandon (r : Registry) (c : CallerId) (phase : FetchPhase) :
    Keeps r (Fetch.abandon r c phase).registry := by
  rcases Fetch.abandon_cases r c phase with hreg | ⟨slot, cell, -, hreg, -⟩
  · rw [hreg]
    exact refl r
  · rw [hreg]
    exact refl r

theorem drain (r : Registry) (count : Nat) (slots : List SlotId) :
    Keeps r (Release.drain r count slots).registry := by
  induction slots generalizing r count with
  | nil => exact refl r
  | cons slot rest ih =>
    have hclose : Keeps r (r.beginClose slot).2 := of_slots_eq (by simp)
    rcases Release.drain_cons r count slot rest with ⟨count', hreg, -⟩ | ⟨hreg, -⟩
    · rw [hreg]
      exact hclose.trans (ih _ count')
    · rw [hreg]
      exact hclose

end Registry.Keeps

/-- An invalidation leaves the entries of other identities. -/
theorem Invalidate.slot?_start {r : Registry} {i j : Identity} (h : j ≠ i) :
    (start r i).registry.slot? j = r.slot? j := by
  rcases start_cases r i with ⟨-, hreg, -⟩ | ⟨slot, -, hreg, -⟩
  · rw [hreg]
  · have hkey : j.key ≠ i.key := fun heq => h (Identity.key_injective heq)
    rw [hreg]
    simp [Registry.slot?, Registry.get?_remove, hkey]

/-- The transition takes the identity's entry out of the map. -/
def Transition.Removes (i : Identity) (t : Transition) : Prop :=
  ∃ slot, t.before.registry.slot? i = some slot ∧ t.after.registry.slot? i ≠ some slot

instance (i : Identity) (t : Transition) : Decidable (t.Removes i) :=
  match h : t.before.registry.slot? i with
  | none => .isFalse (by simp [Transition.Removes, h])
  | some slot =>
    decidable_of_iff (t.after.registry.slot? i ≠ some slot) (by simp [Transition.Removes, h])

namespace Shared

variable {s : Shared} {held : List SlotId} {c : CallerId} {a : Action} {t : Transition}
  {i : Identity}

/-- No other action than a release or an invalidation of the identity removes its entry. -/
theorem removes_action (ht : s.step c a = some t) (h : t.Removes i) :
    a = .release ∨ a = .invalidate i := by
  obtain ⟨slot, hbefore, hafter⟩ := h
  obtain ⟨rfl, -, -, st, htakes, -, heq⟩ := step_spec ht
  rw [heq] at hafter
  replace hafter : st.registry.slot? i ≠ some slot := hafter
  cases htakes with
  | release idle => exact .inl rfl
  | invalidate j idle =>
    by_cases hj : i = j
    · exact .inr (by rw [hj])
    · exact absurd ((Invalidate.slot?_start hj).trans hbefore) hafter
  | fetch q idle => exact absurd (Registry.Keeps.start _ c q _ _ _ hbefore) hafter
  | lookup j idle => exact absurd hbefore hafter
  | @resume q k here => exact absurd (Registry.Keeps.resume _ c q _ k _ _ hbefore) hafter
  | @built q k span p here =>
    exact absurd (Registry.Keeps.settle (t.before.registry.setCell k (.built (q.filling p)))
      c q _ k true _ _ hbefore) hafter
  | @closed q k m failure here => exact absurd (Registry.Keeps.attempt _ c q _ _ _ hbefore) hafter
  | @abandon q phase here => exact absurd (Registry.Keeps.abandon _ c phase _ _ hbefore) hafter
  | invalidated failure here => exact absurd hbefore hafter
  | abandonInvalidation here => exact absurd hbefore hafter
  | @released m rest count failure here =>
    exact absurd (Registry.Keeps.drain _ count rest _ _ hbefore) hafter
  | abandonRelease here => exact absurd hbefore hafter

theorem slot?_of_not_removes {slot : SlotId} (ht : s.step c a = some t) (h : ¬ t.Removes i)
    (hslot : s.registry.slot? i = some slot) : t.after.registry.slot? i = some slot := by
  obtain ⟨rfl, -⟩ := step_spec ht
  by_contra hafter
  exact h ⟨slot, hslot, hafter⟩

theorem slot?_run {slot : SlotId} (schedule : Schedule)
    (h : ∀ t ∈ (s.run schedule).transitions, ¬ t.Removes i)
    (hslot : s.registry.slot? i = some slot) :
    (s.run schedule).final.registry.slot? i = some slot := by
  refine System.run_invariant_of (P := fun s => s.registry.slot? i = some slot) ?_ hslot schedule h
  intro s e t hslot ht hkept
  exact slot?_of_not_removes ht hkept hslot

end Shared

end ShadowTraffic
