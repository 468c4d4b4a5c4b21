import Mathlib.Data.Set.Card
import ShadowTraffic.Proofs.Registry.Fillings
import ShadowTraffic.Proofs.Registry.Gauge
import ShadowTraffic.Proofs.Registry.Lines

/-! # What the statistics count

The statistics count the entries of the map, the filled ones as mediators and the others as
pending. At an entry that is not filled somebody builds, or the turn to build has passed to a
caller that has not gone on yet, or nobody is left. The last two come of builds that were dropped:
a slot whose builder went away with nobody behind it stays in the map, and stays pending, until
somebody asks for its identity again or the entry is taken out.
-/

namespace ShadowTraffic

/-! ## Counting entries -/

theorem Dictionary.nodup_keys {α : Type} (d : Dictionary α) : (d.entries.map (·.1)).Nodup := by
  refine List.pairwise_map.mpr (d.ordered.imp ?_)
  intro a b hlt heq
  rw [heq] at hlt
  exact String.lt_irrefl b.1 hlt

namespace Registry

/-- Every key in the map is that of an identity. -/
def Keyed (r : Registry) : Prop :=
  ∀ key slot, r.slots.get? key = some slot → ∃ i : Identity, i.key = key

/-- The identities in the map whose slot is of a kind. -/
def identities (r : Registry) (P : SlotId → Prop) : Set Identity :=
  {i | ∃ slot, r.slot? i = some slot ∧ P slot}

variable {r : Registry}

/-- The keys of entries of a kind are those of the identities. -/
theorem Keyed.image_identities (h : r.Keyed) (P : SlotId → Prop) [DecidablePred P] :
    Identity.key '' r.identities P =
      ((r.slots.entries.filter fun e => P e.2).map (·.1)).toFinset := by
  ext key
  simp only [identities, slot?, Set.mem_image, Set.mem_ofPred_eq, SetLike.mem_coe, List.mem_toFinset,
    List.mem_map, List.mem_filter, decide_eq_true_eq, Dictionary.get?_eq_some]
  constructor
  · rintro ⟨i, ⟨slot, hmem, hslot⟩, rfl⟩
    exact ⟨(i.key, slot), ⟨hmem, hslot⟩, rfl⟩
  · rintro ⟨⟨key, slot⟩, ⟨hmem, hslot⟩, rfl⟩
    obtain ⟨i, hi⟩ := h key slot (Dictionary.get?_eq_some.mpr hmem)
    exact ⟨i, ⟨slot, hi ▸ hmem, hslot⟩, hi⟩

theorem Keyed.ncard_identities (h : r.Keyed) (P : SlotId → Prop) [DecidablePred P] :
    (r.identities P).ncard = r.slots.entries.countP fun e => P e.2 := by
  rw [← Set.ncard_image_of_injective _ fun _ _ heq => Identity.key_injective heq,
    h.image_identities P, Set.ncard_coe_finset, List.toFinset_card_of_nodup, List.length_map,
    List.countP_eq_length_filter]
  exact (List.filter_sublist.map _).nodup r.slots.nodup_keys

open Classical in
theorem Keyed.finite_identities (h : r.Keyed) (P : SlotId → Prop) :
    (r.identities P).Finite := by
  refine Set.Finite.of_finite_image ?_ fun _ _ _ _ heq => Identity.key_injective heq
  rw [h.image_identities P]
  exact Finset.finite_toSet _

theorem identities_congr {P Q : SlotId → Prop}
    (h : ∀ i slot, r.slot? i = some slot → (P slot ↔ Q slot)) : r.identities P = r.identities Q := by
  ext i
  exact exists_congr fun slot => and_congr_right fun hslot => h i slot hslot

theorem ncard_identities_eq_zero {P : SlotId → Prop}
    (h : ∀ i slot, r.slot? i = some slot → ¬ P slot) : (r.identities P).ncard = 0 := by
  have hnone : r.identities P = ∅ := by
    refine Set.eq_empty_iff_forall_notMem.mpr ?_
    rintro i ⟨slot, hslot, hP⟩
    exact h i slot hslot hP
  rw [hnone, Set.ncard_empty]

/-- Kinds that exclude each other are counted one by one. -/
theorem Keyed.ncard_or (h : r.Keyed) {P Q : SlotId → Prop} (hne : ∀ slot, P slot → ¬ Q slot) :
    (r.identities fun slot => P slot ∨ Q slot).ncard =
      (r.identities P).ncard + (r.identities Q).ncard := by
  have hunion : (r.identities fun slot => P slot ∨ Q slot) = r.identities P ∪ r.identities Q := by
    ext i
    constructor
    · rintro ⟨slot, hslot, hP | hQ⟩
      · exact .inl ⟨slot, hslot, hP⟩
      · exact .inr ⟨slot, hslot, hQ⟩
    · rintro (⟨slot, hslot, hP⟩ | ⟨slot, hslot, hQ⟩)
      · exact ⟨slot, hslot, .inl hP⟩
      · exact ⟨slot, hslot, .inr hQ⟩
  have hdisjoint : Disjoint (r.identities P) (r.identities Q) := by
    refine Set.disjoint_left.mpr ?_
    rintro i ⟨slot, hslot, hP⟩ ⟨slot', hslot', hQ⟩
    rw [hslot, Option.some.injEq] at hslot'
    exact hne slot hP (hslot' ▸ hQ)
  rw [hunion, Set.ncard_union_eq hdisjoint (h.finite_identities P) (h.finite_identities Q)]

/-- An entry in the map is counted as a mediator or as pending. -/
theorem size_eq (r : Registry) : r.size = r.stats.mediators + r.stats.pending := by
  simp only [size, Dictionary.size, stats, ← List.countP_eq_length_filter, List.countP_map]
  rw [List.length_eq_countP_add_countP fun e : String × SlotId => (r.mediator? e.2).isSome]
  congr 1
  refine List.countP_congr fun e _ => ?_
  cases h : r.mediator? e.2 <;> simp [h]

theorem Keyed.mediators_eq (h : r.Keyed) :
    r.stats.mediators = (r.identities fun slot => (r.mediator? slot).isSome = true).ncard := by
  rw [h.ncard_identities]
  simp only [stats, ← List.countP_eq_length_filter, List.countP_map]
  refine List.countP_congr fun e _ => ?_
  simp

theorem Keyed.withShadow_eq (h : r.Keyed) :
    r.stats.withShadow =
      (r.identities fun slot => ((r.mediator? slot).bind Mediator.liveShadow?).isSome = true).ncard := by
  rw [h.ncard_identities]
  simp only [stats, ← List.countP_eq_length_filter, List.countP_map]
  refine List.countP_congr fun e _ => ?_
  simp

theorem Keyed.pending_eq (h : r.Keyed) :
    r.stats.pending = (r.identities fun slot => r.mediator? slot = none).ncard := by
  rw [h.ncard_identities]
  simp only [stats, ← List.countP_eq_length_filter, List.countP_map]
  refine List.countP_congr fun e _ => ?_
  cases hm : r.mediator? e.2 <;> simp [hm]

end Registry

/-! ## New entries -/

namespace Fetch

variable {r : Registry} {c : CallerId} {q : Request} {fresh : SpanId} {slot k : SlotId}
  {key : String}

/-- The caller that puts an entry into the map builds in its slot. -/
theorem opens_attempt (h : (attempt r c q fresh).registry.slots.get? key = some slot) :
    r.slots.get? key = some slot ∨
      key = q.identity.key ∧ (attempt r c q fresh).outcome = .pending (.building slot fresh) := by
  have hslots : (attempt r c q fresh).registry.slots = (r.slotFor q.identity).2.slots := by
    rcases attempt_cases r c q fresh with ⟨-, hreg, -⟩ | ⟨-, hreg, -⟩ | ⟨_, _, -, hreg, -⟩
    · rw [hreg]
    · rw [hreg]
      rfl
    · rw [hreg]
      rfl
  rw [hslots, Registry.get?_slotFor] at h
  split at h
  next heq =>
    cases hi : r.slot? q.identity with
    | some old =>
      rw [Registry.slotFor_of_some hi] at h
      rw [heq]
      exact .inl (hi.trans h)
    | none =>
      -- a new entry gets a vacant cell, so that the caller builds in it
      refine .inr ⟨heq, ?_⟩
      have hslot := Option.some.inj h
      have hcell : (r.slotFor q.identity).2.cell slot = .vacant := by
        rw [Registry.cell_slotFor, ← hslot, Registry.slotFor_of_none hi]
        simp [Registry.cell]
      rcases attempt_cases r c q fresh with ⟨hfilled, -⟩ | ⟨-, -, hout⟩ | ⟨_, _, hbuilding, -⟩
      · rw [hslot] at hfilled
        exact absurd (Registry.mediator?_of_vacant hcell) hfilled
      · rw [hout, hslot]
      · rw [hslot, hcell] at hbuilding
        cases hbuilding
  next => exact .inl h

theorem opens_settle {constructed : Bool}
    (h : (settle r c q fresh k constructed).registry.slots.get? key = some slot) :
    r.slots.get? key = some slot ∨ key = q.identity.key ∧
      (settle r c q fresh k constructed).outcome = .pending (.building slot fresh) := by
  rcases settle_cases r c q fresh k constructed with
    ⟨-, hreg, -⟩ | ⟨-, hreg, hout⟩ | ⟨-, hreg, -⟩
  · rw [hreg] at h
    exact .inl h
  · rw [hreg] at h
    rw [hout]
    exact (opens_attempt h).imp (by rw [Registry.slots_beginClose]; exact id) id
  · rw [hreg, Registry.slots_beginClose] at h
    exact .inl h

theorem opens_start (h : (start r c q fresh).registry.slots.get? key = some slot) :
    r.slots.get? key = some slot ∨
      key = q.identity.key ∧ (start r c q fresh).outcome = .pending (.building slot fresh) := by
  rcases start_cases r c q fresh with ⟨_, -, hreg, -⟩ | ⟨-, hattempt⟩
  · rw [hreg] at h
    exact .inl h
  · rw [hattempt] at h ⊢
    exact opens_attempt h

theorem opens_resume (h : (resume r c q fresh k).registry.slots.get? key = some slot) :
    r.slots.get? key = some slot ∨
      key = q.identity.key ∧ (resume r c q fresh k).outcome = .pending (.building slot fresh) := by
  rcases resume_cases r c q fresh k with ⟨-, hsettle⟩ | ⟨_, -, hreg, -⟩ |
    ⟨_, _, -, -, hreg, -⟩ | ⟨-, hreg, -⟩
  · rw [hsettle] at h ⊢
    exact opens_settle h
  · rw [hreg] at h
    exact .inl h
  · rw [hreg] at h
    exact .inl h
  · rw [hreg] at h
    exact .inl h

theorem opens_built {span : SpanId} {p : Provision}
    (h : (built r c q fresh k span p).registry.slots.get? key = some slot) :
    r.slots.get? key = some slot ∨
      key = q.identity.key ∧ (built r c q fresh k span p).outcome = .pending (.building slot fresh) := by
  obtain ⟨hreg, hout⟩ := built_eq r c q fresh k span p
  rw [hreg] at h
  rw [hout]
  exact opens_settle h

theorem ongoing?_of_building {st : Stretch FetchOutcome}
    (h : st.outcome = .pending (.building slot fresh)) :
    (st.map (Outcome.ofFetch q)).outcome.ongoing? = some (Ongoing.fetch q (.building slot fresh)) := by
  simp [Stretch.map, h, Outcome.ofFetch, Outcome.ongoing?]

theorem slots_abandon (r : Registry) (c : CallerId) (phase : FetchPhase) :
    (abandon r c phase).registry.slots = r.slots := by
  rcases abandon_cases r c phase with hreg | ⟨_, _, -, hreg, -⟩
  · rw [hreg]
  · rw [hreg]
    rfl

end Fetch

theorem Invalidate.get?_start {r : Registry} {i : Identity} {key : String} {slot : SlotId}
    (h : (start r i).registry.slots.get? key = some slot) : r.slots.get? key = some slot := by
  rcases start_cases r i with ⟨-, hreg, -⟩ | ⟨k, -, hreg, -⟩
  · rw [hreg] at h
    exact h
  · rw [hreg, Registry.slots_beginClose, Registry.get?_remove] at h
    split at h
    next => cases h
    next => exact h

namespace Shared

variable {s : Shared} {held : List SlotId} {c d : CallerId} {a : Action} {t : Transition}
  {i : Identity} {slot : SlotId} {key : String}

theorem Takes.opens {st : Stretch Outcome} (ht : Takes s c a st)
    (h : st.registry.slots.get? key = some slot) :
    s.registry.slots.get? key = some slot ∨ ∃ q span, key = q.identity.key ∧
      st.outcome.ongoing? = some (.fetch q (.building slot span)) := by
  cases ht with
  | fetch q idle =>
    exact (Fetch.opens_start h).imp id fun ⟨hkey, hout⟩ =>
      ⟨q, _, hkey, Fetch.ongoing?_of_building hout⟩
  | @resume q k here =>
    exact (Fetch.opens_resume h).imp id fun ⟨hkey, hout⟩ =>
      ⟨q, _, hkey, Fetch.ongoing?_of_building hout⟩
  | @built q k span p here =>
    exact (Fetch.opens_built h).imp id fun ⟨hkey, hout⟩ =>
      ⟨q, _, hkey, Fetch.ongoing?_of_building hout⟩
  | @closed q k m failure here =>
    exact (Fetch.opens_attempt h).imp id fun ⟨hkey, hout⟩ =>
      ⟨q, _, hkey, Fetch.ongoing?_of_building hout⟩
  | @abandon q phase here => exact .inl (by rwa [Stretch.map, Fetch.slots_abandon] at h)
  | invalidate j idle => exact .inl (Invalidate.get?_start h)
  | release idle =>
    rw [Stretch.map, (Release.start_eq s.registry s.spans).1, (Release.drain_tells _ 0 _).1] at h
    cases h
  | @released m rest count failure here =>
    refine .inl ?_
    rwa [Stretch.map, (Release.closed_eq s.registry m rest count failure).1,
      (Release.drain_tells s.registry count rest).1] at h
  | lookup j idle => exact .inl h
  | invalidated failure here => exact .inl h
  | abandonInvalidation here => exact .inl h
  | abandonRelease here => exact .inl h

theorem keyed_run (schedule : Schedule) : (({} : Shared).run schedule).final.registry.Keyed := by
  refine System.run_invariant (P := fun s : Shared => s.registry.Keyed) ?_ ?_ schedule
  rotate_left
  · intro key slot hkey
    cases hkey
  rintro s ⟨c, a⟩ t h ht key slot hkey
  obtain ⟨-, -, -, st, htakes, -, hafter⟩ := step_spec ht
  have hst : st.registry.slots.get? key = some slot := by
    rw [← show t.after.registry = st.registry by rw [hafter]; rfl]
    exact hkey
  rcases htakes.opens hst with hbefore | ⟨q, span, heq, -⟩
  · exact h key slot hbefore
  · exact ⟨q.identity, heq.symm⟩

/-! ## Who is at a slot -/

/-- Somebody builds in the slot. -/
def Constructing (s : Shared) (slot : SlotId) : Prop :=
  ∃ c q span, s.ongoing c = some (.fetch q (.building slot span))

/-- The turn to build has passed to a caller that waits for the slot and has not gone on yet. -/
def HandedOver (s : Shared) (slot : SlotId) : Prop :=
  ∃ c q queue, s.registry.cell slot = .building c queue ∧
    s.ongoing c = some (.fetch q (.waiting slot))

/-- The slot is not filled, and nobody waits for it or builds in it. -/
def Deserted (s : Shared) (slot : SlotId) : Prop :=
  s.registry.mediator? slot = none ∧ ∀ c, (s.ongoing c).bind Ongoing.slot? ≠ some slot

theorem Sound.empty_of_constructing (hs : s.Sound held) (h : s.Constructing slot) :
    s.registry.mediator? slot = none := by
  obtain ⟨c, q, span, hc⟩ := h
  obtain ⟨queue, hcell⟩ := hs.building hc
  exact Registry.mediator?_of_building hcell

theorem not_deserted_of_at {q : Request} {phase : FetchPhase}
    (hc : s.ongoing c = some (.fetch q phase)) (hphase : phase.slot? = some slot) :
    ¬ s.Deserted slot :=
  fun h => h.2 c (by rw [hc]; exact hphase)

theorem HandedOver.not_deserted (h : s.HandedOver slot) : ¬ s.Deserted slot := by
  obtain ⟨c, q, queue, -, hc⟩ := h
  exact not_deserted_of_at hc rfl

theorem Constructing.not_left (hs : s.Sound held) (h : s.Constructing slot) :
    ¬ (s.HandedOver slot ∨ s.Deserted slot) := by
  obtain ⟨c, q, span, hc⟩ := h
  obtain ⟨queue, hcell⟩ := hs.building hc
  rintro (⟨d, q', queue', hcell', hd⟩ | hdeserted)
  · rw [hcell] at hcell'
    cases hcell'
    rw [hc] at hd
    cases hd
  · exact not_deserted_of_at hc rfl hdeserted

/-- A slot is not filled when somebody builds there, or the turn has passed on, or nobody is
left. -/
theorem empty_iff (hs : s.Sound held) (h : Manned s.registry s.ongoing) :
    s.registry.mediator? slot = none ↔
      s.Constructing slot ∨ s.HandedOver slot ∨ s.Deserted slot := by
  constructor
  · intro hempty
    -- the line is empty, or its first caller builds or has been handed the turn
    cases hline : s.registry.line slot with
    | nil =>
      refine .inr (.inr ⟨hempty, fun c hc => ?_⟩)
      have hmem := h.mem_line.mpr ⟨hc, hempty⟩
      rw [hline] at hmem
      cases hmem
    | cons holder queue =>
      have hcell := Registry.cell_of_line hline
      have hat : (s.ongoing holder).bind Ongoing.slot? = some slot :=
        (h.mem_line.mp (by rw [hline]; exact List.mem_cons_self)).1
      obtain ⟨o, ho, hslot⟩ := Option.bind_eq_some_iff.mp hat
      cases o with
      | invalidation i m => cases hslot
      | release m rest count => cases hslot
      | fetch q phase =>
        cases phase with
        | closing k m => cases hslot
        | waiting k =>
          cases hslot
          exact .inr (.inl ⟨holder, q, queue, hcell, ho⟩)
        | building k span =>
          cases hslot
          exact .inl ⟨holder, q, span, ho⟩
  · rintro (hbuilds | ⟨c, q, queue, hcell, -⟩ | hdeserted)
    · exact hs.empty_of_constructing hbuilds
    · exact Registry.mediator?_of_building hcell
    · exact hdeserted.1

/-! ## Where entries without a builder come from -/

/-- A caller that builds goes on to fill its slot or drops the build. -/
theorem Sound.builder_step (hs : s.Sound held) (ht : s.step c a = some t) {q : Request}
    {span : SpanId} (hc : s.ongoing c = some (.fetch q (.building slot span))) :
    t.after.registry.mediator? slot ≠ none ∨
      t.outcome = .abandoned (.fetch q (.building slot span)) := by
  obtain ⟨-, -, -, st, htakes, hout, hafter⟩ := step_spec ht
  rw [hout, hafter]
  cases htakes
  case built p here =>
    rw [hc] at here
    cases here
    refine .inl fun hnone => ?_
    have hfilling := Fetch.filling?_built c q s.spans slot (hs.working hc rfl).1 span p
    change (Fetch.built s.registry c q s.spans slot span p).registry.mediator? slot = none at hnone
    rw [← Registry.filling?_eq_none, hfilling, if_pos rfl] at hnone
    cases hnone
  case abandon here =>
    rw [hc] at here
    cases here
    exact .inr rfl
  all_goals simp_all

/-- An entry of the identity is neither filled nor being filled. -/
def Unattended (i : Identity) (slot : SlotId) (s : Shared) : Prop :=
  s.registry.slot? i = some slot ∧ s.registry.mediator? slot = none ∧ ¬ s.Constructing slot

theorem Sound.unattended_step (hs : s.Sound held) (ht : s.step c a = some t)
    (h : Unattended i slot t.after) :
    Unattended i slot s ∨
      ∃ q span, q.identity = i ∧ t.outcome = .abandoned (.fetch q (.building slot span)) := by
  obtain ⟨hslot, hempty, hnobody⟩ := h
  have hlater := hs.later_step ht
  have hbefore : s.registry.slot? i = some slot := by
    obtain ⟨-, -, -, st, htakes, -, hafter⟩ := step_spec ht
    rw [hafter] at hslot
    rcases htakes.opens hslot with hkey | ⟨q, span, -, hout⟩
    · exact hkey
    · refine absurd ⟨c, q, span, ?_⟩ hnobody
      simp [hafter, afterStretch, hout]
  -- a filled slot stays filled
  have hempty' : s.registry.mediator? slot = none := by
    by_contra hfilled
    obtain ⟨m, hm⟩ := Option.ne_none_iff_exists'.mp hfilled
    rcases hlater.kept hm with hkept | hkept
    · rw [hempty] at hkept
      cases hkept
    · rw [hempty] at hkept
      cases hkept
  by_cases hbuilds : s.Constructing slot
  · obtain ⟨d, q, span, hd⟩ := hbuilds
    -- only the builder itself can end the build
    by_cases hdc : d = c
    · subst hdc
      rcases hs.builder_step ht hd with hfilled | hdropped
      · exact absurd hempty hfilled
      · have hkey := (hs.working hd rfl).2 i.key hbefore
        exact .inr ⟨q, span, (Identity.key_injective hkey).symm, hdropped⟩
    · exact absurd ⟨d, q, span, (step_ongoing ht hdc).trans hd⟩ hnobody
  · exact .inl ⟨hbefore, hempty', hbuilds⟩

/-- A build for the identity was dropped in the slot of every unattended entry. -/
theorem dropped_of_unattended (schedule : Schedule)
    (h : Unattended i slot (({} : Shared).run schedule).final) :
    ∃ t ∈ (({} : Shared).run schedule).transitions, ∃ q span, q.identity = i ∧
      t.outcome = .abandoned (.fetch q (.building slot span)) := by
  have horigin := System.run_origin (I := fun s : Shared => ∃ held, s.Sound held)
    (P := Unattended i slot) (fun ⟨_, hs⟩ ht => ⟨_, hs.step ht⟩)
    (fun ⟨_, hs⟩ ht hafter => hs.unattended_step ht hafter) ⟨[], Sound.initial⟩ schedule h
  exact horigin.resolve_left fun hinitial => by cases hinitial.1

/-! ## The statistics -/

/-- What the statistics count at the end of a run. -/
structure Statistics (r : Run Shared Transition) : Prop where
  mediators : r.final.registry.stats.mediators = (r.final.registry.identities fun slot =>
    ∃ m, r.final.registry.mediator? slot = some m ∧ m.released = false).ncard
  withShadow : r.final.registry.stats.withShadow = (r.final.registry.identities fun slot =>
    ∃ m, r.final.registry.mediator? slot = some m ∧ m.released = false ∧ m.shadow ≠ none).ncard
  size : r.final.registry.size =
    r.final.registry.stats.mediators + r.final.registry.stats.pending
  pending : r.final.registry.stats.pending =
    (r.final.registry.identities r.final.Constructing).ncard +
      ((r.final.registry.identities r.final.HandedOver).ncard +
        (r.final.registry.identities r.final.Deserted).ncard)
  /-- Where the turn has passed on or nobody is left, a build was dropped. -/
  dropped : ∀ i slot, r.final.registry.slot? i = some slot →
    r.final.HandedOver slot ∨ r.final.Deserted slot →
    ∃ t ∈ r.transitions, ∃ q span, q.identity = i ∧
      t.outcome = .abandoned (.fetch q (.building slot span))
  /-- While no build is dropped, what is pending is being built. -/
  undisturbed : (∀ t ∈ r.transitions, ∀ q slot span,
      t.outcome ≠ .abandoned (.fetch q (.building slot span))) →
    r.final.registry.stats.pending = (r.final.registry.identities r.final.Constructing).ncard
  /-- What is pending when nobody is in an operation has been left by everybody. -/
  idle : (∀ c, r.final.ongoing c = none) →
    r.final.registry.stats.pending = (r.final.registry.identities r.final.Deserted).ncard

theorem pending_split (hs : s.Sound held) (h : Manned s.registry s.ongoing)
    (hkeyed : s.registry.Keyed) :
    s.registry.stats.pending = (s.registry.identities s.Constructing).ncard +
      ((s.registry.identities s.HandedOver).ncard + (s.registry.identities s.Deserted).ncard) := by
  have hempty : (fun slot => s.registry.mediator? slot = none) =
      fun slot => s.Constructing slot ∨ s.HandedOver slot ∨ s.Deserted slot :=
    funext fun slot => propext (empty_iff hs h)
  rw [hkeyed.pending_eq, hempty, hkeyed.ncard_or fun _ hbuilds => hbuilds.not_left hs,
    hkeyed.ncard_or fun _ hturn => hturn.not_deserted]

theorem Sound.mediators_eq (hs : s.Sound held) (hkeyed : s.registry.Keyed) :
    s.registry.stats.mediators = (s.registry.identities fun slot =>
      ∃ m, s.registry.mediator? slot = some m ∧ m.released = false).ncard := by
  rw [hkeyed.mediators_eq]
  congr 1
  refine Registry.identities_congr fun i slot hslot => ?_
  cases hm : s.registry.mediator? slot with
  | none => simp
  | some m => simp [(hs.live hslot hm).1]

/-- Mediators in the map are not released, so that their shadows are live. -/
theorem Sound.withShadow_eq (hs : s.Sound held) (hkeyed : s.registry.Keyed) :
    s.registry.stats.withShadow = (s.registry.identities fun slot =>
      ∃ m, s.registry.mediator? slot = some m ∧ m.released = false ∧ m.shadow ≠ none).ncard := by
  rw [hkeyed.withShadow_eq]
  congr 1
  refine Registry.identities_congr fun i slot hslot => ?_
  cases hm : s.registry.mediator? slot with
  | none => simp
  | some m => simp [Mediator.liveShadow?, (hs.live hslot hm).1, Option.isSome_iff_ne_none]

theorem statistics_run (schedule : Schedule) : Statistics (({} : Shared).run schedule) := by
  obtain ⟨held, hs⟩ := sound_run schedule
  have hmanned := manned_run schedule
  have hkeyed := keyed_run schedule
  have hpending := pending_split hs hmanned hkeyed
  have hdropped : ∀ i slot, (({} : Shared).run schedule).final.registry.slot? i = some slot →
      (({} : Shared).run schedule).final.HandedOver slot ∨
        (({} : Shared).run schedule).final.Deserted slot →
      ∃ t ∈ (({} : Shared).run schedule).transitions, ∃ q span, q.identity = i ∧
        t.outcome = .abandoned (.fetch q (.building slot span)) := by
    intro i slot hslot hleft
    exact dropped_of_unattended schedule
      ⟨hslot, (empty_iff hs hmanned).mpr (.inr hleft), fun hbuilds => hbuilds.not_left hs hleft⟩
  constructor
  · exact hs.mediators_eq hkeyed
  · exact hs.withShadow_eq hkeyed
  · exact Registry.size_eq _
  · exact hpending
  · exact hdropped
  · intro hkept
    have hnone : ∀ i slot, (({} : Shared).run schedule).final.registry.slot? i = some slot →
        ¬ ((({} : Shared).run schedule).final.HandedOver slot ∨
          (({} : Shared).run schedule).final.Deserted slot) := by
      intro i slot hslot hleft
      obtain ⟨t, ht, q, span, -, hout⟩ := hdropped i slot hslot hleft
      exact hkept t ht q slot span hout
    rw [hpending, Registry.ncard_identities_eq_zero fun i slot hslot hturn =>
      hnone i slot hslot (.inl hturn), Registry.ncard_identities_eq_zero fun i slot hslot hleft =>
      hnone i slot hslot (.inr hleft)]
    rfl
  · intro hidle
    rw [hpending, Registry.ncard_identities_eq_zero ?_, Registry.ncard_identities_eq_zero ?_]
    · rw [Nat.zero_add, Nat.zero_add]
    · rintro i slot - ⟨c, q, queue, -, hc⟩
      rw [hidle c] at hc
      cases hc
    · rintro i slot - ⟨c, q, span, hc⟩
      rw [hidle c] at hc
      cases hc

/-- A build is dropped with nobody behind it. -/
def leftAlone : Schedule :=
  [(0, .fetch ⟨⟨"a", "", "", "", ""⟩, {}, "x"⟩), (0, .abandon)]

theorem leftAlone_idle (c : CallerId) : (({} : Shared).run leftAlone).final.ongoing c = none := by
  by_cases h : c = 0
  · subst h
    decide
  · exact run_ongoing (by simp [leftAlone, Ne.symm h])

/-- Its entry stays pending, with nobody in an operation. -/
theorem pending_leftAlone :
    (∀ c, (({} : Shared).run leftAlone).final.ongoing c = none) ∧
      (∀ slot, ¬ (({} : Shared).run leftAlone).final.Constructing slot) ∧
      (({} : Shared).run leftAlone).final.registry.stats = ⟨0, 0, 1⟩ ∧
      (({} : Shared).run leftAlone).final.registry.size = 1 := by
  refine ⟨leftAlone_idle, ?_, by decide, by decide⟩
  rintro slot ⟨c, q, span, hc⟩
  rw [leftAlone_idle c] at hc
  cases hc

end Shared

end ShadowTraffic
