import ShadowTraffic.Proofs.Registry.Entries
import ShadowTraffic.Proofs.Registry.Fillings

/-! # Callers gathered at an entry

While the entry of an identity stays, everybody who asks for it waits for its slot or builds in it.
Then one caller at a time can build, nobody starts once the slot is filled, and every build that
was started has been completed, has been dropped or is in flight.
-/

namespace ShadowTraffic

/-! ## Where a fetch is suspended -/

/-- A fetch that is suspended waits or builds where its entry leads. -/
def FetchOutcome.At (r : Registry) (q : Request) (o : FetchOutcome) : Prop :=
  ∀ phase, o = .pending phase →
    ∃ slot, r.slot? q.identity = some slot ∧ phase.slot? = some slot

namespace Fetch

variable {r : Registry} {slot : SlotId} (c : CallerId) {q : Request} (fresh : SpanId)

theorem at_attempt (r : Registry) (q : Request) :
    (attempt r c q fresh).outcome.At (attempt r c q fresh).registry q := by
  intro phase hphase
  have hopen := r.slot?_slotFor q.identity
  rcases attempt_cases r c q fresh with ⟨-, -, hout⟩ | ⟨-, hreg, hout⟩ | ⟨_, _, -, hreg, hout⟩
  · rw [hout] at hphase
    cases hphase
  · rw [hout] at hphase
    cases hphase
    exact ⟨_, by rw [hreg]; exact hopen, rfl⟩
  · rw [hout] at hphase
    cases hphase
    exact ⟨_, by rw [hreg]; exact hopen, rfl⟩

theorem at_start (r : Registry) (q : Request) :
    (start r c q fresh).outcome.At (start r c q fresh).registry q := by
  rcases start_cases r c q fresh with ⟨slot, -, -, hout⟩ | ⟨-, hattempt⟩
  · intro phase hphase
    rw [hout] at hphase
    cases hphase
  · rw [hattempt]
    exact at_attempt c fresh r q

theorem settle_of_owns (hown : r.slot? q.identity = some slot) (constructed : Bool) :
    (settle r c q fresh slot constructed).outcome = .got slot := by
  rcases settle_cases r c q fresh slot constructed with ⟨-, -, hout⟩ | ⟨hne, -⟩ | ⟨hne, -⟩
  · exact hout
  · exact absurd hown hne
  · exact absurd hown hne

theorem at_resume (hown : r.slot? q.identity = some slot) :
    (resume r c q fresh slot).outcome.At (resume r c q fresh slot).registry q := by
  intro phase hphase
  rcases resume_cases r c q fresh slot with ⟨-, hsettle⟩ | ⟨_, -, hreg, hout⟩ |
    ⟨_, _, -, -, hreg, hout⟩ | ⟨-, hreg, hout⟩
  · rw [hsettle, settle_of_owns c fresh hown] at hphase
    cases hphase
  · rw [hout] at hphase
    cases hphase
    exact ⟨slot, by rw [hreg]; exact hown, rfl⟩
  · rw [hout] at hphase
    cases hphase
    exact ⟨slot, by rw [hreg]; exact hown, rfl⟩
  · rw [hout] at hphase
    cases hphase
    exact ⟨slot, by rw [hreg]; exact hown, rfl⟩

theorem built_of_owns (hown : r.slot? q.identity = some slot) (span : SpanId) (p : Provision) :
    (built r c q fresh slot span p).outcome = .got slot := by
  have hown' : (r.setCell slot (.built (q.filling p))).slot? q.identity = some slot := hown
  rw [(built_eq r c q fresh slot span p).2]
  exact settle_of_owns c fresh hown' true

end Fetch

/-! ## Callers at an entry -/

/-- Everybody who asks for the identity waits or builds where its entry leads. -/
def Shared.Gathered (s : Shared) (i : Identity) : Prop :=
  ∀ c q phase, s.ongoing c = some (.fetch q phase) → q.identity = i →
    ∃ slot, s.registry.slot? i = some slot ∧ phase.slot? = some slot

namespace Outcome

theorem ofFetch_ongoing? {q q' : Request} {phase : FetchPhase} {o : FetchOutcome}
    (h : (ofFetch q o).ongoing? = some (.fetch q' phase)) : q' = q ∧ o = .pending phase := by
  cases o with
  | got slot => cases h
  | pending phase' =>
    cases h
    exact ⟨rfl, rfl⟩

theorem ofInvalidate_ongoing? {i : Identity} {o : InvalidateOutcome} {q : Request}
    {phase : FetchPhase} : (ofInvalidate i o).ongoing? ≠ some (.fetch q phase) := by
  cases o <;> nofun

theorem ofRelease_ongoing? {o : ReleaseOutcome} {q : Request} {phase : FetchPhase} :
    (ofRelease o).ongoing? ≠ some (.fetch q phase) := by
  cases o <;> nofun

end Outcome

namespace Shared

variable {s : Shared} {held : List SlotId} {c d : CallerId} {a : Action} {t : Transition}
  {i : Identity}

theorem Gathered.of_idle (h : ∀ c q phase, s.ongoing c = some (.fetch q phase) → q.identity ≠ i) :
    s.Gathered i :=
  fun c q phase hc hq => absurd hq (h c q phase hc)

theorem Gathered.takes {st : Stretch Outcome} {q : Request} {phase : FetchPhase}
    (h : s.Gathered i) (ht : Takes s c a st)
    (hout : st.outcome.ongoing? = some (.fetch q phase)) (hq : q.identity = i) :
    ∃ slot, st.registry.slot? i = some slot ∧ phase.slot? = some slot := by
  cases ht with
  | fetch q' idle =>
    obtain ⟨rfl, hphase⟩ := Outcome.ofFetch_ongoing? hout
    rw [← hq]
    exact Fetch.at_start c s.spans s.registry q phase hphase
  | @resume q' slot here =>
    obtain ⟨rfl, hphase⟩ := Outcome.ofFetch_ongoing? hout
    obtain ⟨slot', hslot, heq⟩ := h c q _ here hq
    cases heq
    rw [← hq] at hslot ⊢
    exact Fetch.at_resume c s.spans hslot phase hphase
  | @built q' slot span p here =>
    obtain ⟨rfl, hphase⟩ := Outcome.ofFetch_ongoing? hout
    obtain ⟨slot', hslot, heq⟩ := h c q _ here hq
    cases heq
    rw [← hq] at hslot
    rw [Fetch.built_of_owns c s.spans hslot span p] at hphase
    cases hphase
  | closed failure here =>
    obtain ⟨rfl, -⟩ := Outcome.ofFetch_ongoing? hout
    obtain ⟨slot', -, heq⟩ := h c q _ here hq
    cases heq
  | lookup j idle => cases hout
  | abandon here => cases hout
  | abandonInvalidation here => cases hout
  | abandonRelease here => cases hout
  | invalidate j idle => exact absurd hout Outcome.ofInvalidate_ongoing?
  | invalidated failure here => cases hout
  | release idle => exact absurd hout Outcome.ofRelease_ongoing?
  | released failure here => exact absurd hout Outcome.ofRelease_ongoing?

theorem Gathered.step (h : s.Gathered i) (ht : s.step c a = some t) (hkept : ¬ t.Removes i) :
    t.after.Gathered i := by
  obtain ⟨-, -, -, st, htakes, -, hafter⟩ := step_spec ht
  intro d q phase hd hq
  by_cases hdc : d = c
  · subst hdc
    rw [hafter] at hd ⊢
    exact h.takes htakes (by simpa [afterStretch] using hd) hq
  · have hbefore : s.ongoing d = some (.fetch q phase) := by
      simpa [hafter, afterStretch, hdc] using hd
    obtain ⟨slot, hslot, hphase⟩ := h d q phase hbefore hq
    exact ⟨slot, slot?_of_not_removes ht hkept hslot, hphase⟩

/-! ## Who builds -/

end Shared

/-- A build for the identity is under way. -/
def Ongoing.builds (i : Identity) : Ongoing → Bool
  | .fetch q (.building ..) => decide (q.identity = i)
  | _ => false

/-- The caller builds for the identity. -/
def Shared.builds (s : Shared) (i : Identity) (c : CallerId) : Bool :=
  (s.ongoing c).any (·.builds i)

/-- The entry of the identity is filled. -/
def Shared.cached (s : Shared) (i : Identity) : Bool :=
  (s.registry.lookup i).isSome

/-- A builder went away. -/
def Outcome.drops (i : Identity) : Outcome → Bool
  | .abandoned o => o.builds i
  | _ => false

namespace Transition

/-- A build begins: nothing else leaves its caller building. -/
def starts (i : Identity) (t : Transition) : Bool :=
  t.outcome.ongoing?.any (·.builds i)

def completes (i : Identity) (t : Transition) : Bool :=
  t.completion?.any fun completed => completed.1.identity = i

def drops (i : Identity) (t : Transition) : Bool :=
  t.outcome.drops i

theorem completes_iff {i : Identity} {t : Transition} :
    t.completes i = true ↔ ∃ q slot p, t.completion? = some (q, slot, p) ∧ q.identity = i := by
  simp [completes, Option.any_eq_true]

theorem completes_eq_false {i : Identity} {t : Transition} (h : ∀ p, t.action ≠ .built p) :
    t.completes i = false := by
  simp [completes, completion?_eq_none h]

end Transition

namespace Outcome

@[simp] theorem drops_ofFetch (i : Identity) (q : Request) (o : FetchOutcome) :
    (ofFetch q o).drops i = false := by
  cases o <;> rfl

@[simp] theorem drops_ofInvalidate (i j : Identity) (o : InvalidateOutcome) :
    (ofInvalidate j o).drops i = false := by
  cases o <;> rfl

@[simp] theorem drops_ofRelease (i : Identity) (o : ReleaseOutcome) :
    (ofRelease o).drops i = false := by
  cases o <;> rfl

end Outcome

namespace Shared

variable {s : Shared} {held : List SlotId} {c d : CallerId} {a : Action} {t : Transition}
  {i : Identity}

theorem builds_iff : s.builds i c = true ↔
    ∃ q slot span, s.ongoing c = some (.fetch q (.building slot span)) ∧ q.identity = i := by
  unfold builds
  rw [Option.any_eq_true]
  constructor
  · rintro ⟨o, ho, hbuilds⟩
    unfold Ongoing.builds at hbuilds
    split at hbuilds
    next q slot span => exact ⟨q, slot, span, ho, by simpa using hbuilds⟩
    next => cases hbuilds
  · rintro ⟨q, slot, span, ho, rfl⟩
    exact ⟨_, ho, by simp [Ongoing.builds]⟩

theorem cached_iff : s.cached i = true ↔
    ∃ slot m, s.registry.slot? i = some slot ∧ s.registry.filling? slot = some m := by
  unfold cached
  rw [Option.isSome_iff_exists]
  constructor
  · rintro ⟨slot, hlookup⟩
    obtain ⟨hslot, hsome⟩ := Registry.lookup_eq_some.mp hlookup
    obtain ⟨m, hm⟩ := Option.isSome_iff_exists.mp hsome
    exact ⟨slot, m.asBuilt, hslot, Registry.filling?_of_mediator? hm⟩
  · rintro ⟨slot, m, hslot, hm⟩
    have hne : s.registry.filling? slot ≠ none := by simp [hm]
    rw [ne_eq, Registry.filling?_eq_none] at hne
    exact ⟨slot, Registry.lookup_eq_some.mpr ⟨hslot, Option.isSome_iff_ne_none.mpr hne⟩⟩

/-- A caller that builds completes its build or drops it with its next stretch. -/
theorem builds_before (ht : s.step c a = some t) :
    (s.builds i c).toNat = (t.completes i).toNat + (t.drops i).toNat := by
  obtain ⟨rfl, rfl, haction, st, htakes, hout, -⟩ := step_spec ht
  have hcompletes : (∀ p, a ≠ .built p) → t.completes i = false := fun ha =>
    Transition.completes_eq_false (by rw [haction]; exact ha)
  rw [Transition.drops, hout]
  cases htakes with
  | fetch q idle => simp [builds, idle, hcompletes, Stretch.map]
  | lookup j idle => simp [builds, idle, hcompletes, Outcome.drops]
  | invalidate j idle => simp [builds, idle, hcompletes, Stretch.map]
  | release idle => simp [builds, idle, hcompletes, Stretch.map]
  | resume here => simp [builds, here, Ongoing.builds, hcompletes, Stretch.map]
  | @built q slot span p here =>
    have hcompletion : t.completion? = some (q, slot, p) :=
      Transition.completion?_eq_some.mpr ⟨span, here, haction⟩
    simp [builds, here, Ongoing.builds, Transition.completes, hcompletion, Stretch.map]
  | closed failure here => simp [builds, here, Ongoing.builds, hcompletes, Stretch.map]
  | abandon here => simp [builds, here, hcompletes, Outcome.drops, Stretch.map]
  | invalidated failure here => simp [builds, here, Ongoing.builds, hcompletes, Stretch.map]
  | abandonInvalidation here => simp [builds, here, hcompletes, Outcome.drops]
  | released failure here => simp [builds, here, Ongoing.builds, hcompletes, Stretch.map]
  | abandonRelease here => simp [builds, here, hcompletes, Outcome.drops]

theorem builds_after (ht : s.step c a = some t) : t.after.builds i c = t.starts i := by
  obtain ⟨-, -, -, st, -, hout, hafter⟩ := step_spec ht
  simp [builds, hafter, afterStretch, Transition.starts, hout]

theorem builds_of_ne (ht : s.step c a = some t) (hdc : d ≠ c) :
    t.after.builds i d = s.builds i d := by
  obtain ⟨-, -, -, st, -, -, hafter⟩ := step_spec ht
  simp [builds, hafter, afterStretch, hdc]

end Shared

end ShadowTraffic
