import ShadowTraffic.Proofs.Registry.Opened

/-! # Rounds of a fetch

A fetch begins another round when it finds that the slot it had is not the one in the map. Each
such round is paid for: from the moment when a round begins, the caller has the slot of the map,
and loses it only when a release or an invalidation takes it away. It builds at most once in a
round.
-/

namespace ShadowTraffic

/-! ## The rounds of a stretch -/

namespace Fetch

/-- Whether a filled slot sends its caller into another round at once: the map holds another slot,
and no shadow has to be closed first. -/
def retries (r : Registry) (q : Request) (slot : SlotId) : Bool :=
  !r.owns q.identity slot && (r.beginClose slot).1.waits?.isNone

/-- A caller that settles for another slot goes through a whole round. -/
theorem settle_of_retries {r : Registry} {q : Request} {slot : SlotId}
    (h : retries r q slot = true) (c : CallerId) (fresh : SpanId) (constructed : Bool) :
    (settle r c q fresh slot constructed).registry =
        (attempt (r.beginClose slot).2 c q fresh).registry ∧
      (settle r c q fresh slot constructed).outcome =
        (attempt (r.beginClose slot).2 c q fresh).outcome := by
  rw [retries, Bool.and_eq_true, Bool.not_eq_true', Option.isNone_iff_eq_none] at h
  have hne : r.slot? q.identity ≠ some slot := by
    intro heq
    rw [Registry.owns_iff.mpr heq] at h
    cases h.1
  rcases settle_orphan hne c fresh constructed with ⟨-, hreg, hout⟩ | ⟨m, hwaits, -⟩
  · exact ⟨hreg, hout⟩
  · rw [h.2] at hwaits
    cases hwaits

/-- Otherwise it is given the slot, or closes its shadow. -/
theorem settle_of_not_retries {r : Registry} {q : Request} {slot : SlotId}
    (h : retries r q slot = false) (c : CallerId) (fresh : SpanId) (constructed : Bool) :
    (r.slot? q.identity = some slot ∧ (settle r c q fresh slot constructed).registry = r ∧
        (settle r c q fresh slot constructed).outcome = .got slot) ∨
      (r.slot? q.identity ≠ some slot ∧
        ∃ m, (settle r c q fresh slot constructed).outcome = .pending (.closing slot m)) := by
  by_cases howns : r.slot? q.identity = some slot
  · exact .inl ⟨howns, settle_own howns c fresh constructed⟩
  · right
    rcases settle_orphan howns c fresh constructed with ⟨hwaits, -⟩ | ⟨m, -, -, hout⟩
    · have hother : r.owns q.identity slot = false := by
        rw [← Bool.not_eq_true, Registry.owns_iff]
        exact howns
      rw [retries, hother, hwaits] at h
      cases h
    · exact ⟨howns, m, hout⟩

end Fetch

namespace FetchOutcome

/-- The caller has the slot of the map, in its hands or to wait for. -/
def keeps (r : Registry) (q : Request) : FetchOutcome → Bool
  | .pending phase => phase.slot?.any fun slot => r.owns q.identity slot
  | .got _ => true

def startsBuild : FetchOutcome → Bool
  | .pending (.building ..) => true
  | _ => false

def waits : FetchOutcome → Bool
  | .pending (.waiting _) => true
  | _ => false

theorem startsBuild_add_waits (o : FetchOutcome) : o.startsBuild.toNat + o.waits.toNat ≤ 1 := by
  cases o with
  | got slot => exact Nat.zero_le 1
  | pending phase =>
    cases phase with
    | waiting slot => exact Nat.le_refl 1
    | building slot span => exact Nat.le_refl 1
    | closing slot m => exact Nat.zero_le 1

end FetchOutcome

namespace Fetch

variable (r : Registry) (c : CallerId) (q : Request) (fresh : SpanId) (slot : SlotId)

theorem keeps_attempt :
    (attempt r c q fresh).outcome.keeps (attempt r c q fresh).registry q = true := by
  have hled := r.slot?_slotFor q.identity
  rcases attempt_cases r c q fresh with ⟨-, -, hout⟩ | ⟨-, hreg, hout⟩ | ⟨_, _, -, hreg, hout⟩
  · rw [hout]
    rfl
  · rw [hout, hreg]
    exact Registry.owns_iff.mpr hled
  · rw [hout, hreg]
    exact Registry.owns_iff.mpr hled

theorem round_add_start :
    let st := start r c q fresh
    (r.lookup q.identity).isNone.toNat ≤ (st.outcome.keeps st.registry q).toNat ∧
      st.outcome.startsBuild.toNat + st.outcome.waits.toNat ≤
        (r.lookup q.identity).isNone.toNat := by
  dsimp only
  rcases start_cases r c q fresh with ⟨slot, hlookup, hreg, hout⟩ | ⟨hlookup, hattempt⟩
  · rw [hlookup, hreg, hout]
    exact ⟨Nat.zero_le _, Nat.le_refl 0⟩
  · rw [hlookup, hattempt, keeps_attempt]
    exact ⟨Nat.le_refl 1, FetchOutcome.startsBuild_add_waits _⟩

theorem retries_add_settle (constructed : Bool) :
    let st := settle r c q fresh slot constructed
    (retries r q slot).toNat + (r.owns q.identity slot).toNat ≤
        (st.outcome.keeps st.registry q).toNat ∧
      st.outcome.startsBuild.toNat + st.outcome.waits.toNat ≤ (retries r q slot).toNat := by
  dsimp only
  cases hretries : retries r q slot with
  | true =>
    have hother : r.owns q.identity slot = false := by
      rw [retries, Bool.and_eq_true, Bool.not_eq_true'] at hretries
      exact hretries.1
    obtain ⟨hreg, hout⟩ := settle_of_retries hretries c fresh constructed
    rw [hreg, hout, keeps_attempt, hother]
    exact ⟨Nat.le_refl 1, FetchOutcome.startsBuild_add_waits _⟩
  | false =>
    rcases settle_of_not_retries hretries c fresh constructed with
      ⟨howns, hreg, hout⟩ | ⟨hne, m, hout⟩
    · rw [hreg, hout, Registry.owns_iff.mpr howns]
      exact ⟨Nat.le_refl 1, Nat.le_refl 0⟩
    · have hother : r.owns q.identity slot = false := by
        rw [← Bool.not_eq_true, Registry.owns_iff]
        exact hne
      rw [hout, hother]
      exact ⟨Nat.zero_le _, Nat.le_refl 0⟩

theorem retries_add_built (span : SpanId) (p : Provision) :
    let st := built r c q fresh slot span p
    let filled := r.setCell slot (.built (q.filling p))
    (retries filled q slot).toNat + (r.owns q.identity slot).toNat ≤
        (st.outcome.keeps st.registry q).toNat ∧
      st.outcome.startsBuild.toNat + st.outcome.waits.toNat ≤ (retries filled q slot).toNat :=
  retries_add_settle (r.setCell slot (.built (q.filling p))) c q fresh slot true

/-- A caller that goes on waiting or begins to build stays in its round. -/
theorem round_add_resume :
    let st := resume r c q fresh slot
    ((r.mediator? slot).isSome && retries r q slot).toNat + (r.owns q.identity slot).toNat ≤
      (st.outcome.keeps st.registry q).toNat := by
  dsimp only
  rcases resume_cases r c q fresh slot with ⟨hmed, hsettle⟩ | ⟨_, hcell, hreg, hout⟩ |
    ⟨_, _, hcell, -, hreg, hout⟩ | ⟨hcell, hreg, hout⟩
  · rw [hsettle, Option.isSome_iff_ne_none.mpr hmed]
    exact (retries_add_settle r c q fresh slot false).1
  · rw [Registry.mediator?_of_building hcell, hreg, hout]
    exact (Nat.zero_add _).le
  · rw [Registry.mediator?_of_building hcell, hreg, hout]
    exact (Nat.zero_add _).le
  · rw [Registry.mediator?_of_vacant hcell, hreg, hout]
    exact (Nat.zero_add _).le

end Fetch

/-! ## The rounds of a call -/

namespace Shared

/-- Whether an action takes its caller into another round of its fetch. -/
def round (s : Shared) (c : CallerId) (a : Action) : Bool :=
  match s.ongoing c, a with
  | none, .fetch q => (s.registry.lookup q.identity).isNone
  | some (.fetch q (.waiting slot)), .resume =>
    (s.registry.mediator? slot).isSome && Fetch.retries s.registry q slot
  | some (.fetch q (.building slot _)), .built p =>
    Fetch.retries (s.registry.setCell slot (.built (q.filling p))) q slot
  | some (.fetch _ (.closing ..)), .closed _ => true
  | _, _ => false

/-- The caller's fetch has the slot of the map. -/
def keepsSlot (s : Shared) (c : CallerId) : Bool :=
  match s.ongoing c with
  | some (.fetch q phase) => (FetchOutcome.pending phase).keeps s.registry q
  | _ => false

def waits (s : Shared) (c : CallerId) : Bool :=
  match s.ongoing c with
  | some (.fetch _ phase) => (FetchOutcome.pending phase).waits
  | _ => false

end Shared

namespace Transition

def round (t : Transition) : Bool :=
  t.before.round t.caller t.action

/-- The caller's operation has ended. -/
def ends (t : Transition) : Bool :=
  t.outcome.ongoing?.isNone

/-- The transitions while an operation of the caller is running: all up to its end. -/
def during (c : CallerId) : List Transition → List Transition
  | [] => []
  | t :: rest => if t.caller = c ∧ t.ends = true then [t] else t :: during c rest

/-- The caller takes a round, in one of the transitions. -/
def roundOf (c : CallerId) (t : Transition) : Bool :=
  t.caller = c ∧ t.round = true

/-- The caller begins to build. -/
def buildOf (i : Identity) (c : CallerId) (t : Transition) : Bool :=
  t.caller = c ∧ t.starts i = true

end Transition

namespace Shared

variable {s : Shared} {c d : CallerId} {a : Action} {t : Transition} {q : Request} {i : Identity}

/-- What a stretch of a fetch has to do with rounds, given what its operation has. -/
theorem own_of_ofFetch {st : Stretch FetchOutcome} {round kept waited : Nat}
    (hout : t.outcome = Outcome.ofFetch q st.outcome)
    (hafter : t.after = s.afterStretch c (st.map (.ofFetch q)))
    (hround : round + kept ≤ (st.outcome.keeps st.registry q).toNat)
    (hbuild : st.outcome.startsBuild.toNat + st.outcome.waits.toNat ≤ round + waited) :
    round + kept ≤ (t.ends || t.after.keepsSlot c).toNat ∧
      (t.starts q.identity).toNat + (t.after.waits c).toNat ≤ round + waited := by
  rw [Transition.ends, Transition.starts, keepsSlot, Shared.waits, hafter, hout]
  cases ho : st.outcome with
  | got slot =>
    rw [ho] at hround hbuild
    simp_all [Outcome.ofFetch, Outcome.ongoing?, FetchOutcome.keeps, afterStretch, Stretch.map]
  | pending phase =>
    rw [ho] at hround hbuild
    cases phase <;>
      simp_all [Outcome.ofFetch, Outcome.ongoing?, afterStretch, Stretch.map,
        FetchOutcome.startsBuild, FetchOutcome.waits, Ongoing.builds]

/-- A round begins only without the slot of the map, and gets it; one build at most is begun in
it, by the caller itself or after it has waited. -/
theorem own_step (ht : s.step c a = some t)
    (hq : a = .fetch q ∨ ∃ phase, s.ongoing c = some (.fetch q phase)) :
    t.round.toNat + (s.keepsSlot c).toNat ≤ (t.ends || t.after.keepsSlot c).toNat ∧
      (t.starts q.identity).toNat + (t.after.waits c).toNat ≤
        t.round.toNat + (s.waits c).toNat := by
  obtain ⟨hbefore, hcaller, haction, st, htakes, hout, hafter⟩ := step_spec ht
  rw [Transition.round, hbefore, hcaller, haction]
  cases htakes with
  | fetch q' idle =>
    obtain rfl : q' = q := by simpa [idle] using hq
    have hstart := Fetch.round_add_start s.registry c q' s.spans
    apply own_of_ofFetch hout hafter
    · simpa [round, keepsSlot, idle] using hstart.1
    · simpa [round, Shared.waits, idle] using hstart.2
  | @resume q' slot here =>
    obtain rfl : q' = q := by simpa [here] using hq
    have hresume := Fetch.round_add_resume s.registry c q' s.spans slot
    apply own_of_ofFetch hout hafter
    · simpa [round, keepsSlot, here, FetchOutcome.keeps, FetchPhase.slot?] using hresume
    · have hone := (Fetch.resume s.registry c q' s.spans slot).outcome.startsBuild_add_waits
      have hwaited : (s.waits c).toNat = 1 := by simp [Shared.waits, here, FetchOutcome.waits]
      omega
  | @built q' slot span p here =>
    obtain rfl : q' = q := by simpa [here] using hq
    have hbuilt := Fetch.retries_add_built s.registry c q' s.spans slot span p
    apply own_of_ofFetch hout hafter
    · simpa [round, keepsSlot, here, FetchOutcome.keeps, FetchPhase.slot?] using hbuilt.1
    · simpa [round, Shared.waits, here, FetchOutcome.waits] using hbuilt.2
  | @closed q' slot m failure here =>
    obtain rfl : q' = q := by simpa [here] using hq
    have hkeeps := Fetch.keeps_attempt s.registry c q' s.spans
    apply own_of_ofFetch hout hafter
    · rw [(Fetch.closed_eq s.registry c q' s.spans m failure).1,
        (Fetch.closed_eq s.registry c q' s.spans m failure).2, hkeeps]
      simp [round, keepsSlot, here, FetchOutcome.keeps, FetchPhase.slot?]
    · have hone := (Fetch.closed s.registry c q' s.spans m failure).outcome.startsBuild_add_waits
      simpa [round, Shared.waits, here, FetchOutcome.waits] using hone
  | @abandon q' phase here =>
    have hround : s.round c .abandon = false := by simp [round, here]
    have hends : t.ends = true := by rw [Transition.ends, hout]; rfl
    have hstarts : t.starts q.identity = false := by rw [Transition.starts, hout]; rfl
    have hwaits : t.after.waits c = false := by
      simp [Shared.waits, hafter, afterStretch, Stretch.map, Outcome.ongoing?]
    rw [hround, hends, hstarts, hwaits]
    exact ⟨by simpa using Bool.toNat_le _, Nat.zero_le _⟩
  | lookup i idle => simp [idle] at hq
  | invalidate i idle => simp [idle] at hq
  | release idle => simp [idle] at hq
  | invalidated failure here => simp [here] at hq
  | abandonInvalidation here => simp [here] at hq
  | released failure here => simp [here] at hq
  | abandonRelease here => simp [here] at hq

/-- In a round a caller asks for the slot of its identity, from what the orphan of the round before
left of the registry. -/
theorem attempt_of_round (ht : s.step c a = some t) (hround : t.round = true) :
    ∃ q r, t.after.registry = (Fetch.attempt r c q s.spans).registry ∧
      t.outcome = .ofFetch q (Fetch.attempt r c q s.spans).outcome := by
  obtain ⟨hbefore, hcaller, haction, st, htakes, hout, hafter⟩ := step_spec ht
  rw [Transition.round, hbefore, hcaller, haction] at hround
  rw [hafter, hout]
  cases htakes with
  | fetch q idle =>
    have hlookup : s.registry.lookup q.identity = none := by simpa [round, idle] using hround
    rcases Fetch.start_cases s.registry c q s.spans with ⟨slot, hsome, -⟩ | ⟨-, hattempt⟩
    · rw [hlookup] at hsome
      cases hsome
    · refine ⟨q, s.registry, ?_⟩
      rw [hattempt]
      exact ⟨rfl, rfl⟩
  | @resume q slot here =>
    have hretries : (s.registry.mediator? slot).isSome = true ∧
        Fetch.retries s.registry q slot = true := by simpa [round, here] using hround
    obtain ⟨hreg, hattempt⟩ := Fetch.settle_of_retries hretries.2 c s.spans false
    obtain ⟨m, hm⟩ := Option.isSome_iff_exists.mp hretries.1
    have hresume : Fetch.resume s.registry c q s.spans slot =
        Fetch.settle s.registry c q s.spans slot false := by
      rw [Fetch.resume, Registry.mediator?_eq_some.mp hm]
    refine ⟨q, (s.registry.beginClose slot).2, ?_⟩
    rw [← hreg, ← hattempt, hresume]
    exact ⟨rfl, rfl⟩
  | @built q slot span p here =>
    have hretries : Fetch.retries (s.registry.setCell slot (.built (q.filling p))) q slot = true :=
      by simpa [round, here] using hround
    obtain ⟨hreg, hattempt⟩ := Fetch.settle_of_retries hretries c s.spans true
    refine ⟨q, ((s.registry.setCell slot (.built (q.filling p))).beginClose slot).2, ?_⟩
    rw [← hreg, ← hattempt]
    exact ⟨rfl, rfl⟩
  | @closed q slot m failure here => exact ⟨q, s.registry, rfl, rfl⟩
  | lookup i idle => simp [round, idle] at hround
  | invalidate i idle => simp [round, idle] at hround
  | release idle => simp [round, idle] at hround
  | abandon here => simp [round, here] at hround
  | invalidated failure here => simp [round, here] at hround
  | abandonInvalidation here => simp [round, here] at hround
  | released failure here => simp [round, here] at hround
  | abandonRelease here => simp [round, here] at hround

/-- While others go on, the slot is lost only by being taken out of the map. -/
theorem keepsSlot_le (ht : s.step c a = some t) (hne : d ≠ c) {phase : FetchPhase}
    (hd : s.ongoing d = some (.fetch q phase)) :
    (s.keepsSlot d).toNat ≤
      (decide (t.Removes q.identity)).toNat + (t.after.keepsSlot d).toNat := by
  have hd' : t.after.ongoing d = some (.fetch q phase) := (step_ongoing ht hne).trans hd
  by_cases hremoves : t.Removes q.identity
  · rw [decide_eq_true hremoves]
    exact (Bool.toNat_le _).trans (Nat.le_add_right _ _)
  · rw [decide_eq_false hremoves, Bool.toNat_false, Nat.zero_add, keepsSlot, keepsSlot, hd, hd']
    cases hslot : phase.slot? with
    | none => simp [FetchOutcome.keeps, hslot]
    | some slot =>
      by_cases howns : s.registry.slot? q.identity = some slot
      · have hafter := slot?_of_not_removes ht hremoves howns
        simp [FetchOutcome.keeps, hslot, Registry.owns_iff.mpr hafter, Bool.toNat_le]
      · have hother : s.registry.owns q.identity slot = false := by
          rw [← Bool.not_eq_true, Registry.owns_iff]
          exact howns
        simp [FetchOutcome.keeps, hslot, hother]

/-- Over what is left of a call, every round is paid for by a removal, the one that the caller is
in aside, and every build by a round. -/
structure Paid (q : Request) (c : CallerId) (kept waited : Bool) (call : List Transition) :
    Prop where
  rounds : call.countP (·.roundOf c) + kept.toNat ≤ call.countP (·.Removes q.identity) + 1
  builds : call.countP (·.buildOf q.identity c) ≤ call.countP (·.roundOf c) + waited.toNat

theorem paid_own (ht : s.step c a = some t)
    (hq : a = .fetch q ∨ ∃ phase, s.ongoing c = some (.fetch q phase)) {later : List Transition}
    (hlater : ∀ phase, t.after.ongoing c = some (.fetch q phase) →
      Paid q c (t.after.keepsSlot c) (t.after.waits c) (Transition.during c later)) :
    Paid q c (s.keepsSlot c) (s.waits c) (Transition.during c (t :: later)) := by
  obtain ⟨hround, hbuild⟩ := own_step ht hq
  obtain ⟨-, hcaller, -⟩ := step_spec ht
  have hroundOf : t.roundOf c = t.round := by simp [Transition.roundOf, hcaller]
  have hbuildOf : t.buildOf q.identity c = t.starts q.identity := by
    simp [Transition.buildOf, hcaller]
  cases hends : t.ends with
  | true =>
    have hcall : Transition.during c (t :: later) = [t] := if_pos ⟨hcaller, hends⟩
    rw [hends, Bool.true_or, Bool.toNat_true] at hround
    constructor
    · rw [hcall, countP_cons_toNat, countP_cons_toNat, hroundOf, List.countP_nil, List.countP_nil]
      omega
    · rw [hcall, countP_cons_toNat, countP_cons_toNat, hroundOf, hbuildOf, List.countP_nil,
        List.countP_nil]
      omega
  | false =>
    have hcall : Transition.during c (t :: later) = t :: Transition.during c later :=
      if_neg fun h => by simp [hends] at h
    obtain ⟨phase, hphase⟩ : ∃ phase, t.after.ongoing c = some (.fetch q phase) := by
      rcases step_fetch ht hq with ⟨phase, -, hafter⟩ | ⟨slot, hout⟩ | ⟨phase, hout⟩
      · exact ⟨phase, hafter⟩
      · rw [Transition.ends, hout] at hends
        cases hends
      · rw [Transition.ends, hout] at hends
        cases hends
    obtain ⟨hrounds, hbuilds⟩ := hlater phase hphase
    rw [hends, Bool.false_or] at hround
    constructor
    · rw [hcall, countP_cons_toNat, countP_cons_toNat, hroundOf]
      omega
    · rw [hcall, countP_cons_toNat, countP_cons_toNat, hroundOf, hbuildOf]
      omega

theorem paid_during {phase : FetchPhase} (hc : s.ongoing c = some (.fetch q phase))
    (schedule : Schedule) :
    Paid q c (s.keepsSlot c) (s.waits c) (Transition.during c (s.run schedule).transitions) := by
  induction schedule generalizing s phase with
  | nil =>
    constructor
    · exact (Nat.zero_add _).trans_le (Bool.toNat_le _)
    · exact Nat.zero_le _
  | cons e schedule ih =>
    cases hstep : s.step e.1 e.2 with
    | none =>
      rw [run_cons_none hstep]
      exact ih hc
    | some t =>
      rw [run_cons_some hstep]
      by_cases he : e.1 = c
      · subst he
        exact paid_own hstep (.inr ⟨phase, hc⟩) fun phase' hafter => ih hafter
      · obtain ⟨-, hcaller, -⟩ := step_spec hstep
        have hne : t.caller ≠ c := hcaller ▸ he
        have hkeeps := keepsSlot_le hstep (Ne.symm he) hc
        have hafter : t.after.ongoing c = s.ongoing c := step_ongoing hstep (Ne.symm he)
        have hwaits : t.after.waits c = s.waits c := by rw [Shared.waits, hafter, Shared.waits]
        obtain ⟨hrounds, hbuilds⟩ := ih (hafter.trans hc)
        have hcall : Transition.during c (t :: (t.after.run schedule).transitions) =
            t :: Transition.during c (t.after.run schedule).transitions :=
          if_neg fun h => hne h.1
        have hround : t.roundOf c = false := by simp [Transition.roundOf, hne]
        have hbuild : t.buildOf q.identity c = false := by simp [Transition.buildOf, hne]
        rw [hwaits] at hbuilds
        constructor
        · rw [hcall, countP_cons_toNat, countP_cons_toNat, hround, Bool.toNat_false]
          omega
        · rw [hcall, countP_cons_toNat, countP_cons_toNat, hround, hbuild, Bool.toNat_false]
          omega

/-! ## Rounds and builds -/

/-- What the rounds and builds of a run come to. -/
structure RoundsPaid (r : Run Shared Transition) : Prop where
  asks : ∀ t ∈ r.transitions, t.round = true → ∃ q r,
    t.after.registry = (Fetch.attempt r t.caller q t.before.spans).registry ∧
      t.outcome = .ofFetch q (Fetch.attempt r t.caller q t.before.spans).outcome
  /-- A call takes one round more at most than slots of its identity were taken away meanwhile. -/
  rounds : ∀ {earlier later t q}, r.transitions = earlier ++ t :: later → t.action = .fetch q →
    let call := Transition.during t.caller (t :: later)
    call.countP (·.roundOf t.caller) ≤ call.countP (·.Removes q.identity) + 1
  /-- It begins to build no more often than that. -/
  builds : ∀ {earlier later t q}, r.transitions = earlier ++ t :: later → t.action = .fetch q →
    let call := Transition.during t.caller (t :: later)
    call.countP (·.buildOf q.identity t.caller) ≤ call.countP (·.Removes q.identity) + 1
  /-- Over the whole run, no more builds are completed for an identity. -/
  completed : ∀ i, r.transitions.countP (·.completes i) ≤ r.transitions.countP (·.Removes i) + 1
  /-- Slots are taken away by releases and by invalidations of their identities only. -/
  removals : ∀ t ∈ r.transitions, ∀ i, t.Removes i → t.action = .release ∨ t.action = .invalidate i

/-- From its start, a call has no slot and waits for none. -/
theorem paid_call {schedule : Schedule} {earlier later : List Transition} {t : Transition}
    {q : Request} (hsplit : (({} : Shared).run schedule).transitions = earlier ++ t :: later)
    (hq : t.action = .fetch q) :
    Paid q t.caller false false (Transition.during t.caller (t :: later)) := by
  obtain ⟨first, e, rest, -, -, hstep, hrest⟩ := run_split hsplit
  obtain ⟨-, hcaller, haction, st, htakes, -⟩ := step_spec hstep
  have hlater : later = (t.after.run rest).transitions := by rw [hrest]
  have hfetch : e.2 = .fetch q := haction.symm.trans hq
  have idle : (({} : Shared).run first).final.ongoing e.1 = none := by
    rw [hfetch] at htakes
    cases htakes with
    | fetch q idle => exact idle
  have hpaid : Paid q e.1 ((({} : Shared).run first).final.keepsSlot e.1)
      ((({} : Shared).run first).final.waits e.1) (Transition.during e.1 (t :: later)) :=
    paid_own hstep (.inl hfetch) fun phase hphase => hlater ▸ paid_during hphase rest
  rw [hcaller]
  simpa [keepsSlot, Shared.waits, idle] using hpaid

-- two removals meanwhile, and the first caller's third round, for which it waits, is its last
example :
    let i : Identity := ⟨"a", "", "", "", ""⟩
    let ask (business : Handle) : Action := .fetch ⟨i, {}, business⟩
    let ts := (({} : Shared).run
      [(0, ask "x"), (1, .invalidate i), (0, .built (.ok none)), (2, .release),
        (3, ask "y"), (0, .built (.ok none)), (3, .built (.ok none)), (0, .resume)]).transitions
    (Transition.during 0 ts).countP (·.roundOf 0) = 3 ∧
      (Transition.during 0 ts).countP (·.Removes i) = 2 ∧ ts.countP (·.completes i) = 3 := by
  decide

end Shared

end ShadowTraffic
