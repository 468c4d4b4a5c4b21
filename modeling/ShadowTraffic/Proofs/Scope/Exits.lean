import Mathlib.Data.List.Count
import ShadowTraffic.Proofs.Runs
import ShadowTraffic.Proofs.Scope.Standing
import ShadowTraffic.Telemetry.Effect

/-! # Exits by ticket and by hand

Attempts on one scope stack, some with a ticket that is dropped at some time, some made by hand. An
attempt made by hand asks once whether it has to leave, and leaves exactly when it is told to; that
this happens innermost first is one of the orders considered here.
-/

namespace ShadowTraffic

/-- A scope stack and the attempts on it that have not exited. -/
structure OpenAttempts where
  scopes : Scopes := {}
  /-- With tickets that are not dropped yet. -/
  tickets : List Ticket := []
  /-- Made by hand, not having asked yet. -/
  byHand : List Ticket := []
  /-- Made by hand and told to leave; these count as accepted. -/
  leaving : List Ticket := []

inductive AttemptAction where
  | enter (boundary : String) (policy : Policy)
  | drop (t : Ticket)
  | attempt (boundary : String) (policy : Policy)
  /-- An attempt made by hand asks whether it has to leave. -/
  | ask (t : Ticket)
  | leave (boundary : String) (policy : Policy)
deriving DecidableEq

/-- One action carried out. -/
structure AttemptStep where
  before : OpenAttempts
  action : AttemptAction
  effects : List Effect
  after : OpenAttempts

namespace OpenAttempts

def step (s : OpenAttempts) (a : AttemptAction) : Option AttemptStep :=
  match a with
  | .enter boundary policy =>
    let (t, scopes) := s.scopes.enter boundary policy
    some {
      before := s, action := a, effects := []
      after := { s with scopes, tickets := t :: s.tickets } }
  | .drop t =>
    if t ∈ s.tickets then
      let (scopes, effects) := s.scopes.exit t
      some {
        before := s, action := a, effects
        after := { s with scopes, tickets := s.tickets.erase t } }
    else none
  | .attempt boundary policy =>
    let (entered, scopes) := s.scopes.tryEnter boundary policy
    some {
      before := s, action := a, effects := []
      after := { s with scopes, byHand := ⟨boundary, policy, entered⟩ :: s.byHand } }
  | .ask t =>
    if t ∈ s.byHand then
      let (mayLeave, scopes) := s.scopes.canLeave t.boundary t.policy
      let leaving :=
        if mayLeave then ⟨t.boundary, t.policy, true⟩ :: s.leaving else s.leaving
      some {
        before := s, action := a, effects := []
        after := { s with scopes, byHand := s.byHand.erase t, leaving } }
    else none
  | .leave boundary policy =>
    if ⟨boundary, policy, true⟩ ∈ s.leaving then
      let (scopes, effects) :=
        match s.scopes.leave boundary policy with
        | .ok scopes => (scopes, [])
        | .error e =>
          (s.scopes, [.noticed (.unbalancedExit boundary policy), .counted (.misused e.boundary)])
      some {
        before := s, action := a, effects
        after := { s with scopes, leaving := s.leaving.erase ⟨boundary, policy, true⟩ } }
    else none

def system : System OpenAttempts AttemptAction AttemptStep where
  step := step
  after t := t.after

def run (s : OpenAttempts) (schedule : List AttemptAction) : Run OpenAttempts AttemptStep :=
  system.run s schedule

/-- Every attempt has exited. -/
def Exited (s : OpenAttempts) : Prop :=
  s.tickets = [] ∧ s.byHand = [] ∧ s.leaving = []

/-- How many open attempts there are of a kind. -/
def count (s : OpenAttempts) (t : Ticket) : Nat :=
  s.tickets.count t + s.byHand.count t + s.leaving.count t

end OpenAttempts

/-! ## Steps and runs -/

namespace AttemptStep

/-- An accepted attempt asks while a skipped one is open on its boundary. -/
def Misleads (t : AttemptStep) (b : String) : Prop :=
  t.action = .ask ⟨b, .boundary, true⟩ ∧ 0 < t.before.count ⟨b, .boundary, false⟩

/-- A skipped ticket is dropped whose count was used up. -/
def Strands (t : AttemptStep) (b : String) : Prop :=
  t.action = .drop ⟨b, .boundary, false⟩ ∧ (t.before.scopes.frame b).skipped = 0

end AttemptStep

namespace OpenAttempts

variable {s : OpenAttempts} {standing : String → Standing} {a : AttemptAction} {t : AttemptStep}
  {k : Ticket}

/-- What a step does to the standing of the boundaries. -/
structure Follows (standing : String → Standing) (t : AttemptStep) (standing' : String → Standing) :
    Prop where
  kept : Kept standing' t.after.scopes t.after.count
  effects : t.effects = []
  stranded : ∀ b, standing' b = .stranded ↔ standing b = .stranded ∨ t.Strands b
  owned : ∀ b, standing b = .owned → ¬ t.Misleads b → standing' b = .owned

theorem count_more {s s' : OpenAttempts} {t : Ticket}
    (h : ∀ u, s'.count u = s.count u + [t].count u) : s'.count = t.more s.count := by
  funext u
  by_cases hu : u = t
  · rw [hu, Ticket.more_self, h, List.count_singleton_self]
  · rw [Ticket.more_of_ne hu, h, List.count_singleton, if_neg (by simpa using Ne.symm hu),
      Nat.add_zero]

theorem count_less {s s' : OpenAttempts} {t : Ticket}
    (h : ∀ u, s'.count u + [t].count u = s.count u) : s'.count = t.less s.count := by
  funext u
  by_cases hu : u = t
  · rw [hu, Ticket.less_self, ← h, List.count_singleton_self, Nat.add_sub_cancel]
  · rw [Ticket.less_of_ne hu, ← h, List.count_singleton, if_neg (by simpa using Ne.symm hu),
      Nat.add_zero]

theorem count_erase_add {t : Ticket} {l : List Ticket} (h : t ∈ l) (u : Ticket) :
    (l.erase t).count u + [t].count u = l.count u := by
  rw [(List.perm_cons_erase h).count_eq u, List.count_cons, List.count_cons, List.count_nil,
    Nat.zero_add]

/-- A step that neither asks nor drops a skipped ticket. -/
theorem Follows.same (hkept : Kept standing t.after.scopes t.after.count) (heffects : t.effects = [])
    (hnot : ∀ b, ¬ t.Strands b) : Follows standing t standing where
  kept := hkept
  effects := heffects
  stranded b := (or_iff_left (hnot b)).symm
  owned _ howned _ := howned

theorem count_pos (h : k ∈ s.tickets ∨ k ∈ s.byHand ∨ k ∈ s.leaving) : 0 < s.count k := by
  simp only [← List.count_pos_iff] at h
  unfold count
  omega

theorem count_drop (scopes : Scopes) (hk : k ∈ s.tickets) :
    count { s with scopes, tickets := s.tickets.erase k } = k.less s.count :=
  count_less fun u => by
    have herase := count_erase_add hk u
    simp only [count]
    omega

theorem count_entered (scopes : Scopes) (k : Ticket) :
    count { s with scopes, tickets := k :: s.tickets } = k.more s.count :=
  count_more fun u => by
    simp only [count, List.count_cons, List.count_nil]
    omega

theorem count_attempted (scopes : Scopes) (k : Ticket) :
    count { s with scopes, byHand := k :: s.byHand } = k.more s.count :=
  count_more fun u => by
    simp only [count, List.count_cons, List.count_nil]
    omega

/-- A skipped ticket is dropped: its count is taken back, or the entry is stranded. -/
theorem drop_skipped_follows {b : String} (h : Kept standing s.scopes s.count)
    (hk : ⟨b, .boundary, false⟩ ∈ s.tickets)
    (ht : s.step (.drop ⟨b, .boundary, false⟩) = some t) :
    ∃ standing', Follows standing t standing' := by
  have hpos := count_pos (.inl hk)
  have hkept := h.releaseSkipped hpos
  have hexit : s.scopes.exit ⟨b, .boundary, false⟩ = (s.scopes.releaseSkipped b, []) := rfl
  simp only [step, if_pos hk, hexit, Option.some.injEq] at ht
  subst ht
  by_cases hnone : (s.scopes.frame b).skipped = 0
  · rw [if_pos hnone] at hkept
    obtain ⟨hforsaken, -⟩ := (h.stands b).of_uncounted hpos hnone
    refine ⟨Function.update standing b .stranded,
      ⟨by rw [count_drop _ hk]; exact hkept, rfl, fun other => ?_, fun other howned _ => ?_⟩⟩
    · by_cases hother : other = b
      · rw [hother, Function.update_self]
        exact iff_of_true rfl (.inr ⟨rfl, hnone⟩)
      · rw [Function.update_of_ne hother]
        refine (or_iff_left ?_).symm
        rintro ⟨haction, -⟩
        cases haction
        exact hother rfl
    · have hother : other ≠ b := by
        rintro rfl
        rw [hforsaken] at howned
        cases howned
      rw [Function.update_of_ne hother, howned]
  · rw [if_neg hnone] at hkept
    refine ⟨standing, .same (by rw [count_drop _ hk]; exact hkept) rfl ?_⟩
    rintro other ⟨haction, hzero⟩
    cases haction
    exact hnone hzero

theorem drop_follows (h : Kept standing s.scopes s.count) (hk : k ∈ s.tickets)
    (ht : s.step (.drop k) = some t) : ∃ standing', Follows standing t standing' := by
  obtain ⟨b, policy, entered⟩ := k
  cases entered with
  | true =>
    obtain ⟨scopes, hleave, hkept⟩ := h.leave (count_pos (.inl hk))
    have hexit : s.scopes.exit ⟨b, policy, true⟩ = (scopes, []) := by
      rw [Scopes.exit, Scopes.drop, if_pos rfl, hleave]
    simp only [step, if_pos hk, hexit, Option.some.injEq] at ht
    subst ht
    refine ⟨standing, .same ?_ rfl fun other hstrands => by cases hstrands.1⟩
    rw [count_drop _ hk]
    exact hkept
  | false =>
    cases policy with
    | internal => exact absurd (h.unskipped b) (Nat.ne_of_gt (count_pos (.inl hk)))
    | boundary => exact drop_skipped_follows h hk ht

theorem count_ask (scopes : Scopes) (hk : k ∈ s.byHand) :
    count { s with scopes, byHand := s.byHand.erase k } = k.less s.count :=
  count_less fun u => by
    have herase := count_erase_add hk u
    simp only [count]
    omega

theorem count_told (k : Ticket) : count { s with leaving := k :: s.leaving } = k.more s.count :=
  count_more fun u => by
    simp only [count, List.count_cons, List.count_nil]
    omega

theorem ask_follows (h : Kept standing s.scopes s.count) (hk : k ∈ s.byHand)
    (ht : s.step (.ask k) = some t) : ∃ standing', Follows standing t standing' := by
  obtain ⟨standing', hkept, hstranded, howned⟩ := h.ask (count_pos (.inr (.inl hk)))
  simp only [step, if_pos hk, Option.some.injEq] at ht
  subst ht
  refine ⟨standing', ⟨?_, rfl, fun b => ?_, fun b hb hmisled => ?_⟩⟩
  · cases htold : (s.scopes.canLeave k.boundary k.policy).1 with
    | true =>
      rw [htold, if_pos rfl, ← count_ask (s.scopes.canLeave k.boundary k.policy).2 hk,
        ← count_told] at hkept
      exact hkept
    | false =>
      rw [htold, if_neg nofun, ← count_ask (s.scopes.canLeave k.boundary k.policy).2 hk] at hkept
      exact hkept
  · rw [hstranded, or_iff_left]
    rintro ⟨haction, -⟩
    cases haction
  · refine howned b hb ?_
    rintro ⟨rfl, hskipped⟩
    exact hmisled ⟨rfl, hskipped⟩

theorem leave_follows {b : String} {policy : Policy} (h : Kept standing s.scopes s.count)
    (hk : ⟨b, policy, true⟩ ∈ s.leaving) (ht : s.step (.leave b policy) = some t) :
    Follows standing t standing := by
  obtain ⟨scopes, hleave, hkept⟩ := h.leave (count_pos (.inr (.inr hk)))
  simp only [step, if_pos hk, hleave, Option.some.injEq] at ht
  subst ht
  refine .same ?_ rfl fun other hstrands => by cases hstrands.1
  convert hkept using 1
  refine count_less fun u => ?_
  have herase := count_erase_add hk u
  simp only [count]
  omega

theorem enter_follows {b : String} {policy : Policy} (h : Kept standing s.scopes s.count)
    (ht : s.step (.enter b policy) = some t) : Follows standing t standing := by
  cases ht
  refine .same ?_ rfl fun other hstrands => by cases hstrands.1
  have hkept := h.enter b policy
  rw [← count_entered (s.scopes.enter b policy).2] at hkept
  exact hkept

theorem attempt_follows {b : String} {policy : Policy} (h : Kept standing s.scopes s.count)
    (ht : s.step (.attempt b policy) = some t) : Follows standing t standing := by
  cases ht
  refine .same ?_ rfl fun other hstrands => by cases hstrands.1
  have hkept := h.enter b policy
  rw [← count_attempted (s.scopes.enter b policy).2] at hkept
  exact hkept

theorem step_follows (h : Kept standing s.scopes s.count) (ht : s.step a = some t) :
    ∃ standing', Follows standing t standing' := by
  cases a with
  | enter b policy => exact ⟨standing, enter_follows h ht⟩
  | attempt b policy => exact ⟨standing, attempt_follows h ht⟩
  | drop k =>
    by_cases hk : k ∈ s.tickets
    · exact drop_follows h hk ht
    · simp [step, hk] at ht
  | ask k =>
    by_cases hk : k ∈ s.byHand
    · exact ask_follows h hk ht
    · simp [step, hk] at ht
  | leave b policy =>
    by_cases hk : ⟨b, policy, true⟩ ∈ s.leaving
    · exact ⟨standing, leave_follows h hk ht⟩
    · simp [step, hk] at ht

/-- Where a run leaves the standing of the boundaries. -/
theorem run_follows (h : Kept standing s.scopes s.count) (schedule : List AttemptAction) :
    ∃ standing', Kept standing' (s.run schedule).final.scopes (s.run schedule).final.count ∧
      (∀ t ∈ (s.run schedule).transitions, t.effects = []) ∧
      (∀ b, standing' b = .stranded ↔
        standing b = .stranded ∨ ∃ t ∈ (s.run schedule).transitions, t.Strands b) ∧
      ∀ b, standing b = .owned → (∀ t ∈ (s.run schedule).transitions, ¬ t.Misleads b) →
        standing' b = .owned := by
  unfold run
  induction schedule generalizing s standing with
  | nil => exact ⟨standing, h, by simp [System.run], by simp [System.run], fun _ hb _ => hb⟩
  | cons a schedule ih =>
    cases hstep : system.step s a with
    | none =>
      rw [System.run_cons_none hstep]
      exact ih h
    | some t =>
      rw [System.run_cons_some hstep]
      obtain ⟨middle, hfollows⟩ := step_follows h hstep
      obtain ⟨standing', hkept, heffects, hstranded, howned⟩ := ih hfollows.kept
      refine ⟨standing', hkept, ?_, fun b => ?_, fun b hb hmisled => ?_⟩
      · exact List.forall_mem_cons.mpr ⟨hfollows.effects, heffects⟩
      · simp only [hstranded, hfollows.stranded, or_assoc, List.mem_cons, exists_eq_or_imp]
        exact Iff.rfl
      · obtain ⟨hfirst, hrest⟩ := List.forall_mem_cons.mp hmisled
        exact howned b (hfollows.owned b hb hfirst) hrest

/-! ## What the exits come to -/

/-- What the exits of a run come to, whatever their order. -/
structure Exits (r : Run OpenAttempts AttemptStep) : Prop where
  /-- No exit is unbalanced. -/
  balanced : ∀ t ∈ r.transitions, t.effects = []
  /-- A count is missing only where an accepted attempt has used it up. -/
  misled : ∀ b, (∃ t ∈ r.transitions, t.Strands b) → ∃ t ∈ r.transitions, t.Misleads b
  /-- From then on nothing on the boundary is accepted, also when every attempt has exited. -/
  gated : ∀ b, (∃ t ∈ r.transitions, t.Strands b) →
    r.final.scopes.state b = .entered ∧ (r.final.scopes.tryEnter b .boundary).1 = false
  idle : r.final.Exited → ∀ b, (¬ ∃ t ∈ r.transitions, t.Strands b) →
    r.final.scopes.frames.get? b = none ∧ r.final.scopes.state b = .idle ∧
      r.final.scopes.depth b = 0 ∧ (r.final.scopes.tryEnter b .boundary).1 = true
  empty : r.final.Exited → (∀ t ∈ r.transitions, ∀ b, ¬ t.Misleads b) →
    r.final.scopes.frames = .empty

theorem Exited.count_eq_zero (h : s.Exited) (k : Ticket) : s.count k = 0 := by
  obtain ⟨htickets, hbyHand, hleaving⟩ := h
  rw [count, htickets, hbyHand, hleaving]
  rfl

/-- In every order of attempts and exits, by ticket or by hand, no exit is unbalanced, and a
boundary is idle when every attempt has exited, unless a skipped ticket was dropped whose count an
accepted attempt had used up. -/
theorem exits_settle (schedule : List AttemptAction) : Exits (run {} schedule) := by
  have hempty : Kept (fun _ => .owned) ({} : OpenAttempts).scopes ({} : OpenAttempts).count :=
    .empty
  obtain ⟨standing, hkept, heffects, hstranded, howned⟩ := run_follows hempty schedule
  have hstrands : ∀ b, standing b = .stranded ↔
      ∃ t ∈ (run {} schedule).transitions, t.Strands b := fun b => by
    rw [hstranded, or_iff_right (by decide)]
  have hmisled : ∀ b, (∃ t ∈ (run {} schedule).transitions, t.Strands b) →
      ∃ t ∈ (run {} schedule).transitions, t.Misleads b := by
    intro b hb
    by_contra hnone
    have hown := howned b rfl fun t ht hmisleads => hnone ⟨t, ht, hmisleads⟩
    rw [(hstrands b).mpr hb] at hown
    cases hown
  refine ⟨heffects, hmisled, fun b hb => hkept.gated ((hstrands b).mpr hb),
    fun hexited b hb => ?_, fun hexited hnever => ?_⟩
  · have hnot : standing b ≠ .stranded := fun hb' => hb ((hstrands b).mp hb')
    have hframe := hkept.frame_eq hexited.count_eq_zero hnot
    refine ⟨hkept.absent hexited.count_eq_zero hnot, ?_, ?_, ?_⟩
    · rw [Scopes.state, hframe]
      rfl
    · rw [Scopes.depth, hframe]
      rfl
    · exact congrArg (fun r => r.1.entered) (Scopes.enter_accepted hframe rfl)
  · refine Dictionary.ext_get? fun b => ?_
    rw [Dictionary.get?_empty]
    refine hkept.absent hexited.count_eq_zero fun hb => ?_
    obtain ⟨t, ht, hmisleads⟩ := hmisled b ((hstrands b).mp hb)
    exact hnever t ht b hmisleads

/-- Exits in an order of each kind that is allowed, and yet the boundary stays entered: a nested
ticket outlives the call it was nested in, and the attempt made by hand meanwhile, the last one
made, is the first one to exit. -/
theorem boundary_stays_entered :
    let r := run {} [
      .enter "b" .boundary, .enter "b" .boundary, .drop ⟨"b", .boundary, true⟩,
      .attempt "b" .boundary, .ask ⟨"b", .boundary, true⟩, .drop ⟨"b", .boundary, false⟩]
    r.final.Exited ∧ r.transitions.length = 6 ∧ r.final.scopes.state "b" = .entered ∧
      r.final.scopes.depth "b" = 1 ∧ (r.final.scopes.tryEnter "b" .boundary).1 = false := by
  unfold Exited
  decide

end OpenAttempts

end ShadowTraffic
