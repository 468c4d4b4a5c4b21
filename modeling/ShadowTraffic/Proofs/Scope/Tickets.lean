import Mathlib.Data.List.Count
import ShadowTraffic.Proofs.Runs
import ShadowTraffic.Proofs.Scope.Frames
import ShadowTraffic.Telemetry.Effect

/-! # Tickets own their attempts

Attempts on one scope stack, each with a ticket that is dropped at some time, in any order. The
clones of a stack share its frames, so that there is one state for all of them. Work that is guarded
holds its ticket until it returns, unwinds or is cancelled, and drops a rejected one at once; these
are orders of the same two actions.
-/

namespace ShadowTraffic

/-- A scope stack, and the tickets that are not dropped yet. -/
structure Attempts where
  scopes : Scopes := {}
  live : List Ticket := []

inductive TicketAction where
  | enter (boundary : String) (policy : Policy)
  | drop (t : Ticket)

/-- One action carried out. -/
structure TicketStep where
  action : TicketAction
  effects : List Effect
  after : Attempts

namespace Attempts

def step (s : Attempts) (a : TicketAction) : Option TicketStep :=
  match a with
  | .enter boundary policy =>
    let (t, scopes) := s.scopes.enter boundary policy
    some { action := a, effects := [], after := { scopes, live := t :: s.live } }
  | .drop t =>
    if t ∈ s.live then
      let (scopes, effects) := s.scopes.exit t
      some { action := a, effects, after := { scopes, live := s.live.erase t } }
    else none

def system : System Attempts TicketAction TicketStep where
  step := step
  after t := t.after

def run (s : Attempts) (schedule : List TicketAction) : Run Attempts TicketStep :=
  system.run s schedule

/-! ## Accounts -/

/-- The counters of every frame are the numbers of its live tickets. -/
structure Accounted (s : Attempts) : Prop where
  tidy : s.scopes.Tidy
  entered : ∀ b, s.live.count ⟨b, .boundary, true⟩ = (s.scopes.frame b).entered.toNat
  skipped : ∀ b, s.live.count ⟨b, .boundary, false⟩ = (s.scopes.frame b).skipped
  internal : ∀ b, s.live.count ⟨b, .internal, true⟩ = (s.scopes.frame b).internalDepth
  unskipped : ∀ b, s.live.count ⟨b, .internal, false⟩ = 0

variable {s : Attempts} {b : String} {f : Frame} {live : List Ticket}

theorem Accounted.empty : Accounted {} where
  tidy b f hf := by cases hf
  entered b := rfl
  skipped b := rfl
  internal b := rfl
  unskipped b := rfl

/-- The order of the tickets makes no difference. -/
theorem Accounted.perm (h : s.Accounted) (hperm : s.live.Perm live) :
    Accounted { scopes := s.scopes, live } where
  tidy := h.tidy
  entered b := (hperm.count_eq _).symm.trans (h.entered b)
  skipped b := (hperm.count_eq _).symm.trans (h.skipped b)
  internal b := (hperm.count_eq _).symm.trans (h.internal b)
  unskipped b := (hperm.count_eq _).symm.trans (h.unskipped b)

/-- The frame of one boundary is replaced together with the tickets on it. -/
theorem Accounted.keep (h : s.Accounted)
    (hothers : ∀ t, t.boundary ≠ b → live.count t = s.live.count t)
    (hentered : live.count ⟨b, .boundary, true⟩ = f.entered.toNat)
    (hskipped : live.count ⟨b, .boundary, false⟩ = f.skipped)
    (hinternal : live.count ⟨b, .internal, true⟩ = f.internalDepth)
    (hunskipped : live.count ⟨b, .internal, false⟩ = 0) :
    Accounted { scopes := s.scopes.keep b f, live } where
  tidy := h.tidy.keep
  entered other := by
    rw [Scopes.frame_keep]
    split
    next heq => rw [heq, hentered]
    next hne => rw [hothers _ hne, h.entered]
  skipped other := by
    rw [Scopes.frame_keep]
    split
    next heq => rw [heq, hskipped]
    next hne => rw [hothers _ hne, h.skipped]
  internal other := by
    rw [Scopes.frame_keep]
    split
    next heq => rw [heq, hinternal]
    next hne => rw [hothers _ hne, h.internal]
  unskipped other := by
    by_cases heq : other = b
    · rw [heq, hunskipped]
    · rw [hothers _ heq, h.unskipped]

theorem count_cons_elsewhere {t u : Ticket} (h : u.boundary ≠ t.boundary) :
    (t :: live).count u = live.count u := by
  refine List.count_cons_of_ne ?_
  rintro rfl
  exact h rfl

theorem count_erase_elsewhere {t u : Ticket} (h : u.boundary ≠ t.boundary) :
    (live.erase t).count u = live.count u := by
  refine List.count_erase_of_ne ?_
  rintro rfl
  exact h rfl

theorem Accounted.enter (h : s.Accounted) (b : String) (policy : Policy) :
    Accounted {
      scopes := (s.scopes.enter b policy).2
      live := (s.scopes.enter b policy).1 :: s.live } := by
  have hentered := h.entered b
  have hskipped := h.skipped b
  have hinternal := h.internal b
  have hunskipped := h.unskipped b
  generalize hf : s.scopes.frame b = f at hentered hskipped hinternal
  cases policy with
  | boundary =>
    cases he : f.entered with
    | true =>
      rw [Scopes.enter_skipped hf he]
      dsimp only
      refine h.keep (fun u hu => count_cons_elsewhere hu) ?_ ?_ ?_ ?_
      · rw [List.count_cons_of_ne (by simp), hentered]
      · rw [List.count_cons_self, hskipped]
      · rw [List.count_cons_of_ne (by simp), hinternal]
      · rw [List.count_cons_of_ne (by simp), hunskipped]
    | false =>
      rw [Scopes.enter_accepted hf he]
      dsimp only
      refine h.keep (fun u hu => count_cons_elsewhere hu) ?_ ?_ ?_ ?_
      · rw [List.count_cons_self, hentered, he]
        rfl
      · rw [List.count_cons_of_ne (by simp), hskipped]
      · rw [List.count_cons_of_ne (by simp), hinternal]
      · rw [List.count_cons_of_ne (by simp), hunskipped]
  | internal =>
    rw [Scopes.enter_internal hf]
    dsimp only
    refine h.keep (fun u hu => count_cons_elsewhere hu) ?_ ?_ ?_ ?_
    · rw [List.count_cons_of_ne (by simp), hentered]
    · rw [List.count_cons_of_ne (by simp), hskipped]
    · rw [List.count_cons_self, hinternal]
    · rw [List.count_cons_of_ne (by simp), hunskipped]

/-- A live ticket's exit matches its entry, and ends its attempt alone. -/
theorem Accounted.drop (h : s.Accounted) {t : Ticket} (ht : t ∈ s.live) :
    ∃ scopes, s.scopes.drop t = .ok scopes ∧
      Accounted { scopes, live := s.live.erase t } := by
  obtain ⟨b, policy, entered⟩ := t
  have hentered := h.entered b
  have hskipped := h.skipped b
  have hinternal := h.internal b
  have hunskipped := h.unskipped b
  have hcount := List.count_pos_iff.mpr ht
  generalize hf : s.scopes.frame b = f at hentered hskipped hinternal
  cases policy with
  | boundary =>
    cases entered with
    | true =>
      have he : f.entered = true := by
        cases he : f.entered with
        | true => rfl
        | false =>
          rw [hentered, he] at hcount
          exact absurd hcount (by decide)
      refine ⟨_, by simp [Scopes.drop, Scopes.leave_boundary hf, he]; rfl, ?_⟩
      refine h.keep (fun u hu => count_erase_elsewhere hu) ?_ ?_ ?_ ?_
      · rw [List.count_erase_self, hentered, he]
        rfl
      · rw [List.count_erase_of_ne (by simp), hskipped]
      · rw [List.count_erase_of_ne (by simp), hinternal]
      · rw [List.count_erase_of_ne (by simp), hunskipped]
    | false =>
      refine ⟨_, by simp [Scopes.drop, Scopes.releaseSkipped_eq hf]; rfl, ?_⟩
      refine h.keep (fun u hu => count_erase_elsewhere hu) ?_ ?_ ?_ ?_
      · rw [List.count_erase_of_ne (by simp), hentered]
      · rw [List.count_erase_self, hskipped]
      · rw [List.count_erase_of_ne (by simp), hinternal]
      · rw [List.count_erase_of_ne (by simp), hunskipped]
  | internal =>
    cases entered with
    | true =>
      have hpos : f.internalDepth > 0 := hinternal ▸ hcount
      refine ⟨_, by simp [Scopes.drop, Scopes.leave_internal hf, hpos]; rfl, ?_⟩
      refine h.keep (fun u hu => count_erase_elsewhere hu) ?_ ?_ ?_ ?_
      · rw [List.count_erase_of_ne (by simp), hentered]
      · rw [List.count_erase_of_ne (by simp), hskipped]
      · rw [List.count_erase_self, hinternal]
      · rw [List.count_erase_of_ne (by simp), hunskipped]
    | false =>
      rw [hunskipped] at hcount
      exact absurd hcount (Nat.lt_irrefl 0)

theorem Accounted.exit (h : s.Accounted) {t : Ticket} (ht : t ∈ s.live) :
    (s.scopes.exit t).2 = [] ∧
      Accounted { scopes := (s.scopes.exit t).1, live := s.live.erase t } := by
  obtain ⟨scopes, hdrop, haccounted⟩ := h.drop ht
  have hexit : s.scopes.exit t = (scopes, []) := by rw [Scopes.exit, hdrop]
  rw [hexit]
  exact ⟨rfl, haccounted⟩

theorem Accounted.step (h : s.Accounted) {a : TicketAction} {t : TicketStep}
    (ht : s.step a = some t) : t.after.Accounted ∧ t.effects = [] := by
  unfold Attempts.step at ht
  cases a with
  | enter b policy =>
    cases ht
    exact ⟨h.enter b policy, rfl⟩
  | drop k =>
    dsimp only at ht
    split at ht
    next hlive =>
      cases ht
      obtain ⟨hnone, haccounted⟩ := h.exit hlive
      exact ⟨haccounted, hnone⟩
    next => cases ht

theorem Accounted.run (h : s.Accounted) (schedule : List TicketAction) :
    (s.run schedule).final.Accounted :=
  System.run_invariant (fun h ht => (h.step ht).1) h schedule

/-! ## What the accounts say -/

/-- The tickets on a boundary are of four kinds. -/
theorem countP_boundary (live : List Ticket) (b : String) :
    live.countP (·.boundary == b) =
      live.count ⟨b, .boundary, true⟩ + live.count ⟨b, .boundary, false⟩ +
        live.count ⟨b, .internal, true⟩ + live.count ⟨b, .internal, false⟩ := by
  induction live with
  | nil => rfl
  | cons t live ih =>
    obtain ⟨b', policy, entered⟩ := t
    by_cases hb : b' = b
    · subst hb
      cases policy <;> cases entered <;> simp [ih] <;> omega
    · simp [hb, ih]

theorem Accounted.depth_eq (h : s.Accounted) (b : String) :
    s.scopes.depth b = s.live.countP (·.boundary == b) := by
  rw [countP_boundary, h.entered, h.skipped, h.internal, h.unskipped]
  rfl

theorem Accounted.entered_iff (h : s.Accounted) (b : String) :
    (s.scopes.frame b).entered = true ↔ (⟨b, .boundary, true⟩ : Ticket) ∈ s.live := by
  rw [← List.count_pos_iff, h.entered]
  cases (s.scopes.frame b).entered <;> decide

theorem Accounted.internal_iff (h : s.Accounted) (b : String) :
    (s.scopes.frame b).internalDepth > 0 ↔ (⟨b, .internal, true⟩ : Ticket) ∈ s.live := by
  rw [← List.count_pos_iff, h.internal]

theorem Accounted.state_iff (h : s.Accounted) (b : String) :
    s.scopes.state b = .entered ↔ ∃ t ∈ s.live, t.boundary = b ∧ t.entered = true := by
  rw [Scopes.state, Frame.state_eq_entered, h.entered_iff, h.internal_iff]
  constructor
  · rintro (hlive | hlive)
    · exact ⟨_, hlive, rfl, rfl⟩
    · exact ⟨_, hlive, rfl, rfl⟩
  · rintro ⟨⟨b', policy, entered⟩, hlive, rfl, rfl⟩
    cases policy with
    | boundary => exact .inl hlive
    | internal => exact .inr hlive

theorem Accounted.kept_iff (h : s.Accounted) (b : String) :
    (s.scopes.frames.get? b).isSome = true ↔ ∃ t ∈ s.live, t.boundary = b := by
  have hdepth : 0 < s.scopes.depth b ↔ ∃ t ∈ s.live, t.boundary = b := by
    rw [h.depth_eq, List.countP_pos_iff]
    simp
  rw [h.tidy.isSome_iff, Frame.isIdle_eq_false, ← hdepth]
  rfl

/-- A boundary attempt is accepted unless an accepted one is live. -/
theorem Accounted.enter_boundary (h : s.Accounted) (b : String) :
    (s.scopes.enter b .boundary).1.entered = true ↔
      (⟨b, .boundary, true⟩ : Ticket) ∉ s.live := by
  rw [← h.entered_iff]
  cases he : (s.scopes.frame b).entered with
  | true => simp [Scopes.enter_skipped rfl he]
  | false => simp [Scopes.enter_accepted rfl he]

theorem Accounted.frames_empty (h : s.Accounted) (hlive : s.live = []) :
    s.scopes.frames = .empty := by
  refine Dictionary.ext_get? fun b => ?_
  rw [Dictionary.get?_empty]
  cases hb : s.scopes.frames.get? b with
  | none => rfl
  | some f =>
    obtain ⟨t, ht, -⟩ := (h.kept_iff b).mp (by rw [hb]; rfl)
    rw [hlive] at ht
    cases ht

/-! ## Ownership -/

/-- What the live tickets of a stack say about it, boundary by boundary. -/
structure Owned (s : Attempts) : Prop where
  accepted_once : ∀ b, s.live.count ⟨b, .boundary, true⟩ ≤ 1
  boundary_accepted : ∀ b, (s.scopes.enter b .boundary).1.entered = true ↔
    (⟨b, .boundary, true⟩ : Ticket) ∉ s.live
  internal_accepted : ∀ b, (s.scopes.enter b .internal).1.entered = true
  depth : ∀ b, s.scopes.depth b = s.live.countP (·.boundary == b)
  state : ∀ b, s.scopes.state b = .entered ↔ ∃ t ∈ s.live, t.boundary = b ∧ t.entered = true
  /-- No exit is unbalanced. -/
  exits : ∀ t ∈ s.live, ∃ scopes, s.scopes.drop t = .ok scopes
  kept : ∀ b, (s.scopes.frames.get? b).isSome = true ↔ ∃ t ∈ s.live, t.boundary = b
  empty : s.live = [] → s.scopes.frames = .empty

/-- In every order of attempts and drops, tickets own their attempts, and no drop is reported or
counted as misuse. -/
theorem tickets_own (schedule : List TicketAction) :
    Owned (run {} schedule).final ∧ ∀ t ∈ (run {} schedule).transitions, t.effects = [] := by
  have h := Accounted.empty.run schedule
  constructor
  · constructor
    · intro b
      rw [h.entered]
      exact Bool.toNat_le _
    · exact h.enter_boundary
    · intro b
      rw [Scopes.enter_internal rfl]
    · exact h.depth_eq
    · exact h.state_iff
    · intro t ht
      obtain ⟨scopes, hdrop, -⟩ := h.drop ht
      exact ⟨scopes, hdrop⟩
    · exact h.kept_iff
    · exact h.frames_empty
  · intro t ht
    obtain ⟨first, a, rest, -, hstep⟩ := System.run_mem ht
    exact ((Accounted.empty.run first).step hstep).2

end Attempts

end ShadowTraffic
