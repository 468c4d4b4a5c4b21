import ShadowTraffic.Proofs.Registry.Later

/-! # What callers are given

A slot that a caller is given is the one that the map holds at that moment, and its mediator is the
identity's own and is not released.
-/

namespace ShadowTraffic

/-- The slot that an answer gives out, and for whom. -/
def Answer.given? : Answer → Option (Identity × SlotId)
  | .fetched q slot => some (q.identity, slot)
  | .looked i found => found.map fun slot => (i, slot)
  | _ => none

/-- The map leads from the identity to the slot, and what the slot holds is alive. -/
structure Registry.Current (r : Registry) (i : Identity) (slot : SlotId) (m : Mediator) :
    Prop where
  slot_eq : r.slot? i = some slot
  mediator_eq : r.mediator? slot = some m
  identity_eq : m.identity = i
  unreleased : m.released = false

theorem Registry.Current.filling_eq {r : Registry} {i : Identity} {slot : SlotId} {m : Mediator}
    (h : r.Current i slot m) : r.filling? slot = some m := by
  rw [filling?, h.mediator_eq, Option.map_some, Mediator.asBuilt, ← h.unreleased]

/-! ## Filled slots -/

/-- A slot given out is in the map and filled. -/
def Registry.Filled (r : Registry) (i : Identity) (slot : SlotId) : Prop :=
  r.slot? i = some slot ∧ r.mediator? slot ≠ none

namespace Fetch

variable {r : Registry} {c : CallerId} {q : Request} {fresh : SpanId} {slot given : SlotId}

theorem attempt_got (h : (attempt r c q fresh).outcome = .got given) :
    (attempt r c q fresh).registry.Filled q.identity given := by
  rcases attempt_cases r c q fresh with ⟨hmed, hreg, hout⟩ | ⟨-, -, hout⟩ | ⟨_, _, -, -, hout⟩
  · rw [hout] at h
    cases h
    rw [hreg]
    exact ⟨r.slot?_slotFor q.identity, hmed⟩
  · rw [hout] at h
    cases h
  · rw [hout] at h
    cases h

theorem settle_got {constructed : Bool} (hmed : r.mediator? slot ≠ none)
    (h : (settle r c q fresh slot constructed).outcome = .got given) :
    (settle r c q fresh slot constructed).registry.Filled q.identity given := by
  rcases settle_cases r c q fresh slot constructed with
    ⟨howns, hreg, hout⟩ | ⟨-, hreg, hout⟩ | ⟨-, -, _, hout⟩
  · rw [hout] at h
    cases h
    rw [hreg]
    exact ⟨howns, hmed⟩
  · rw [hreg]
    exact attempt_got (hout ▸ h)
  · rw [hout] at h
    cases h

theorem start_got (h : (start r c q fresh).outcome = .got given) :
    (start r c q fresh).registry.Filled q.identity given := by
  rcases start_cases r c q fresh with ⟨slot, hlookup, hreg, hout⟩ | ⟨-, hattempt⟩
  · rw [hout] at h
    cases h
    obtain ⟨hslot, hsome⟩ := Registry.lookup_eq_some.mp hlookup
    rw [hreg]
    exact ⟨hslot, Option.isSome_iff_ne_none.mp hsome⟩
  · rw [hattempt] at h ⊢
    exact attempt_got h

theorem resume_got (h : (resume r c q fresh slot).outcome = .got given) :
    (resume r c q fresh slot).registry.Filled q.identity given := by
  rcases resume_cases r c q fresh slot with ⟨hmed, hsettle⟩ | ⟨_, -, -, hout⟩ |
    ⟨_, _, -, -, -, hout⟩ | ⟨-, -, hout⟩
  · rw [hsettle] at h ⊢
    exact settle_got hmed h
  · rw [hout] at h
    cases h
  · rw [hout] at h
    cases h
  · rw [hout] at h
    cases h

theorem built_got {span : SpanId} {p : Provision} (hslot : slot < r.cells.size)
    (h : (built r c q fresh slot span p).outcome = .got given) :
    (built r c q fresh slot span p).registry.Filled q.identity given := by
  obtain ⟨hreg, hout⟩ := built_eq r c q fresh slot span p
  have hmed : (r.setCell slot (.built (q.filling p))).mediator? slot ≠ none := by
    simp [Registry.mediator?, Registry.cell_setCell_self hslot]
  rw [hreg]
  exact settle_got hmed (hout ▸ h)

end Fetch

/-! ## Answers -/

namespace Outcome

theorem ofFetch_eq_returned {q : Request} {o : FetchOutcome} {a : Answer}
    (h : ofFetch q o = .returned a) : ∃ slot, o = .got slot ∧ a = .fetched q slot := by
  cases o with
  | pending phase => cases h
  | got slot =>
    cases h
    exact ⟨slot, rfl, rfl⟩

theorem given?_of_ofInvalidate {i : Identity} {o : InvalidateOutcome} {a : Answer}
    (h : ofInvalidate i o = .returned a) : a.given? = none := by
  cases o with
  | closing m => cases h
  | done found =>
    cases h
    rfl

theorem given?_of_ofRelease {o : ReleaseOutcome} {a : Answer} (h : ofRelease o = .returned a) :
    a.given? = none := by
  cases o with
  | closing m rest count => cases h
  | done count =>
    cases h
    rfl

end Outcome

namespace Shared

variable {s : Shared} {held : List SlotId} {c : CallerId} {a : Action}

/-- What a stretch of a fetch gives out, given that what its operation gives out is filled. -/
theorem filled_of_ofFetch {r : Registry} {q : Request} {o : FetchOutcome} {answer : Answer}
    {i : Identity} {slot : SlotId} (h : ∀ given, o = .got given → r.Filled q.identity given)
    (hout : Outcome.ofFetch q o = .returned answer) (hgiven : answer.given? = some (i, slot)) :
    r.Filled i slot := by
  obtain ⟨given, hgot, rfl⟩ := Outcome.ofFetch_eq_returned hout
  cases hgiven
  exact h slot hgot

theorem Takes.filled {st : Stretch Outcome} {answer : Answer} {i : Identity} {slot : SlotId}
    (h : s.Sound held) (ht : Takes s c a st) (hout : st.outcome = .returned answer)
    (hgiven : answer.given? = some (i, slot)) : st.registry.Filled i slot := by
  cases ht with
  | fetch q idle => exact filled_of_ofFetch (fun _ => Fetch.start_got) hout hgiven
  | resume here => exact filled_of_ofFetch (fun _ => Fetch.resume_got) hout hgiven
  | built p here =>
    exact filled_of_ofFetch (fun _ => Fetch.built_got (h.working here rfl).1) hout hgiven
  | @closed q slot' m failure here =>
    obtain ⟨hreg, hattempt⟩ := Fetch.closed_eq s.registry c q s.spans m failure
    refine filled_of_ofFetch (q := q) (fun given hgot => ?_) hout hgiven
    rw [hattempt] at hgot
    simpa [Stretch.map, hreg] using Fetch.attempt_got hgot
  | lookup i' idle =>
    cases hout
    obtain ⟨found, hfound, heq⟩ := Option.map_eq_some_iff.mp hgiven
    cases heq
    obtain ⟨hslot, hsome⟩ := Registry.lookup_eq_some.mp hfound
    exact ⟨hslot, Option.isSome_iff_ne_none.mp hsome⟩
  | abandon here => cases hout
  | abandonInvalidation here => cases hout
  | abandonRelease here => cases hout
  | invalidate i idle => simp [Outcome.given?_of_ofInvalidate hout] at hgiven
  | invalidated failure here =>
    cases hout
    cases hgiven
  | release idle => simp [Outcome.given?_of_ofRelease hout] at hgiven
  | released failure here => simp [Outcome.given?_of_ofRelease hout] at hgiven

/-- In a sound registry, a filled slot of the map is the identity's own and alive. -/
theorem Sound.current {i : Identity} {slot : SlotId} (h : s.Sound held)
    (hfilled : s.registry.Filled i slot) : ∃ m, s.registry.Current i slot m := by
  obtain ⟨hslot, hmed⟩ := hfilled
  obtain ⟨m, hm⟩ := Option.ne_none_iff_exists'.mp hmed
  obtain ⟨hreleased, hkey⟩ := h.live hslot hm
  exact ⟨m, hslot, hm, Identity.key_injective hkey, hreleased⟩

theorem Sound.given {t : Transition} {answer : Answer} {i : Identity} {slot : SlotId}
    (h : s.Sound held) (ht : s.step c a = some t) (hout : t.outcome = .returned answer)
    (hgiven : answer.given? = some (i, slot)) :
    ∃ m, t.after.registry.Current i slot m := by
  obtain ⟨-, -, -, st, htakes, hst, hafter⟩ := step_spec ht
  have hfilled : t.after.registry.Filled i slot := by
    rw [hafter]
    exact htakes.filled h (hst ▸ hout) hgiven
  exact (h.step ht).current hfilled

end Shared

end ShadowTraffic
