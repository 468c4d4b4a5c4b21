import Mathlib.Logic.Function.Basic
import ShadowTraffic.Proofs.Scope.Frames

/-! # The standing of an entry

A ticket undoes its own attempt, but whoever asks whether to leave uses up any skipped attempt there
is. An accepted attempt that asks while a skipped one is open is told not to leave, and its entry is
nobody's from then on. It is given back when the last of the skipped attempts asks by hand, as that
one is told to leave; when the last of them is a ticket, the entry stays.
-/

namespace ShadowTraffic

/-- Whose the entry of a boundary is. -/
inductive Standing where
  /-- It is that of the accepted attempt, if there is one. -/
  | owned
  /-- It is nobody's: its owner has used up one of the skipped attempts that are open. -/
  | forsaken
  /-- It is nobody's, and every skipped attempt that is open has its count. -/
  | stranded
deriving DecidableEq

/-- A frame beside so many accepted and skipped attempts under the boundary policy. -/
def Frame.Stands (f : Frame) (accepted skipped : Nat) : Standing → Prop
  | .owned => accepted = f.entered.toNat ∧ skipped = f.skipped
  | .forsaken => f.entered = true ∧ accepted = 0 ∧ skipped = f.skipped + 1
  | .stranded => f.entered = true ∧ accepted = 0 ∧ skipped = f.skipped

namespace Frame.Stands

variable {f : Frame} {accepted skipped : Nat} {standing : Standing}

/-- Only the entry of an accepted attempt is somebody's. -/
theorem of_accepted (h : f.Stands accepted skipped standing) (hpos : 0 < accepted) :
    standing = .owned ∧ f.entered = true ∧ accepted = 1 := by
  cases standing with
  | owned =>
    have hnat : accepted = f.entered.toNat := h.1
    cases he : f.entered with
    | true => exact ⟨rfl, rfl, by rw [hnat, he]; rfl⟩
    | false =>
      rw [hnat, he] at hpos
      exact absurd hpos (by decide)
  | forsaken => exact absurd h.2.1 (Nat.ne_of_gt hpos)
  | stranded => exact absurd h.2.1 (Nat.ne_of_gt hpos)

theorem of_idle (h : f.Stands accepted skipped standing) (hidle : f.entered = false) :
    standing = .owned ∧ accepted = 0 := by
  cases standing with
  | owned =>
    have hnat : accepted = f.entered.toNat := h.1
    exact ⟨rfl, by rw [hnat, hidle]; rfl⟩
  | forsaken => exact absurd (h.1.symm.trans hidle) (by decide)
  | stranded => exact absurd (h.1.symm.trans hidle) (by decide)

/-- One of the skipped attempts that are open has no count any more. -/
theorem of_uncounted (h : f.Stands accepted skipped standing) (hpos : 0 < skipped)
    (hnone : f.skipped = 0) :
    standing = .forsaken ∧ f.entered = true ∧ accepted = 0 ∧ skipped = 1 := by
  cases standing with
  | owned => exact absurd (h.2.trans hnone) (Nat.ne_of_gt hpos)
  | forsaken => exact ⟨rfl, h.1, h.2.1, by rw [h.2.2, hnone]⟩
  | stranded => exact absurd (h.2.2.trans hnone) (Nat.ne_of_gt hpos)

/-- Unless the entry is stranded, the frame counts as many attempts as are open. -/
theorem sum_eq (h : f.Stands accepted skipped standing) (hnot : standing ≠ .stranded) :
    accepted + skipped = f.entered.toNat + f.skipped := by
  cases standing with
  | owned => rw [h.1, h.2]
  | forsaken =>
    rw [h.1, h.2.1, h.2.2, Bool.toNat_true]
    omega
  | stranded => exact absurd rfl hnot

theorem skip (h : f.Stands accepted skipped standing) :
    Frame.Stands { f with skipped := f.skipped + 1 } accepted (skipped + 1) standing := by
  cases standing with
  | owned => exact ⟨h.1, congrArg (· + 1) h.2⟩
  | forsaken => exact ⟨h.1, h.2.1, congrArg (· + 1) h.2.2⟩
  | stranded => exact ⟨h.1, h.2.1, congrArg (· + 1) h.2.2⟩

theorem unskip (h : f.Stands accepted skipped standing) (hpos : 0 < f.skipped) :
    Frame.Stands { f with skipped := f.skipped - 1 } accepted (skipped - 1) standing := by
  cases standing with
  | owned => exact ⟨h.1, congrArg (· - 1) h.2⟩
  | forsaken =>
    refine ⟨h.1, h.2.1, ?_⟩
    have hskipped : skipped = f.skipped + 1 := h.2.2
    dsimp only
    omega
  | stranded => exact ⟨h.1, h.2.1, congrArg (· - 1) h.2.2⟩

end Frame.Stands

/-! ## Counts -/

/-- One more attempt of a kind. -/
def Ticket.more (t : Ticket) (c : Ticket → Nat) : Ticket → Nat :=
  Function.update c t (c t + 1)

/-- One attempt less of a kind. -/
def Ticket.less (t : Ticket) (c : Ticket → Nat) : Ticket → Nat :=
  Function.update c t (c t - 1)

section

variable {t u : Ticket} {c : Ticket → Nat}

@[simp] theorem Ticket.more_self : t.more c t = c t + 1 :=
  Function.update_self ..

@[simp] theorem Ticket.less_self : t.less c t = c t - 1 :=
  Function.update_self ..

theorem Ticket.more_of_ne (h : u ≠ t) : t.more c u = c u :=
  Function.update_of_ne h ..

theorem Ticket.less_of_ne (h : u ≠ t) : t.less c u = c u :=
  Function.update_of_ne h ..

theorem Ticket.more_less (h : 0 < c t) : t.more (t.less c) = c := by
  funext u
  by_cases hu : u = t
  · rw [hu, more_self, less_self, Nat.sub_add_cancel h]
  · rw [more_of_ne hu, less_of_ne hu]

theorem Ticket.le_more (t : Ticket) (c : Ticket → Nat) (u : Ticket) : c u ≤ t.more c u := by
  by_cases hu : u = t
  · rw [hu, more_self]
    omega
  · exact Nat.le_of_eq (more_of_ne hu).symm

theorem Ticket.less_le (t : Ticket) (c : Ticket → Nat) (u : Ticket) : t.less c u ≤ c u := by
  by_cases hu : u = t
  · rw [hu, less_self]
    omega
  · exact Nat.le_of_eq (less_of_ne hu)

end

/-- The frames of a stack beside the attempts that are open, counted by their kind. -/
structure Kept (standing : String → Standing) (s : Scopes) (c : Ticket → Nat) : Prop where
  tidy : s.Tidy
  stands : ∀ b, (s.frame b).Stands (c ⟨b, .boundary, true⟩) (c ⟨b, .boundary, false⟩) (standing b)
  internal : ∀ b, c ⟨b, .internal, true⟩ = (s.frame b).internalDepth
  unskipped : ∀ b, c ⟨b, .internal, false⟩ = 0

namespace Kept

variable {standing : String → Standing} {s : Scopes} {c : Ticket → Nat} {b : String}

theorem empty : Kept (fun _ => .owned) {} (fun _ => 0) where
  tidy b f hf := by cases hf
  stands b := ⟨rfl, rfl⟩
  internal b := rfl
  unskipped b := rfl

/-- The frame of one boundary is replaced together with the attempts on it. -/
theorem keep {f : Frame} {standing' : String → Standing} {c' : Ticket → Nat}
    (h : Kept standing s c) (hstanding : ∀ other, other ≠ b → standing' other = standing other)
    (hothers : ∀ t, t.boundary ≠ b → c' t = c t)
    (hstands : f.Stands (c' ⟨b, .boundary, true⟩) (c' ⟨b, .boundary, false⟩) (standing' b))
    (hinternal : c' ⟨b, .internal, true⟩ = f.internalDepth)
    (hunskipped : c' ⟨b, .internal, false⟩ = 0) : Kept standing' (s.keep b f) c' where
  tidy := h.tidy.keep
  stands other := by
    rw [Scopes.frame_keep]
    split
    next heq => rw [heq]; exact hstands
    next hne =>
      rw [hothers _ hne, hothers _ hne, hstanding other hne]
      exact h.stands other
  internal other := by
    rw [Scopes.frame_keep]
    split
    next heq => rw [heq, hinternal]
    next hne => rw [hothers _ hne, h.internal]
  unskipped other := by
    by_cases heq : other = b
    · rw [heq, hunskipped]
    · rw [hothers _ heq, h.unskipped]

theorem more_elsewhere {t u : Ticket} (h : u.boundary ≠ t.boundary) : t.more c u = c u := by
  refine Ticket.more_of_ne ?_
  rintro rfl
  exact h rfl

theorem less_elsewhere {t u : Ticket} (h : u.boundary ≠ t.boundary) : t.less c u = c u := by
  refine Ticket.less_of_ne ?_
  rintro rfl
  exact h rfl

/-! ### Moves -/

theorem enter (h : Kept standing s c) (b : String) (policy : Policy) :
    Kept standing (s.enter b policy).2 ((s.enter b policy).1.more c) := by
  have hstands := h.stands b
  have hinternal := h.internal b
  have hunskipped := h.unskipped b
  generalize hf : s.frame b = f at hstands hinternal
  cases policy with
  | boundary =>
    cases he : f.entered with
    | true =>
      rw [Scopes.enter_skipped hf he]
      dsimp only
      refine h.keep (fun _ _ => rfl) (fun u hu => more_elsewhere hu) ?_ ?_ ?_
      · rw [Ticket.more_of_ne (by simp), Ticket.more_self]
        exact hstands.skip
      · rw [Ticket.more_of_ne (by simp), hinternal]
      · rw [Ticket.more_of_ne (by simp), hunskipped]
    | false =>
      obtain ⟨howned, hnone⟩ := hstands.of_idle he
      rw [howned] at hstands
      rw [Scopes.enter_accepted hf he]
      dsimp only
      refine h.keep (fun _ _ => rfl) (fun u hu => more_elsewhere hu) ?_ ?_ ?_
      · rw [Ticket.more_self, Ticket.more_of_ne (by simp), howned, hnone]
        exact ⟨rfl, hstands.2⟩
      · rw [Ticket.more_of_ne (by simp), hinternal]
      · rw [Ticket.more_of_ne (by simp), hunskipped]
  | internal =>
    rw [Scopes.enter_internal hf]
    dsimp only
    refine h.keep (fun _ _ => rfl) (fun u hu => more_elsewhere hu) ?_ ?_ ?_
    · rw [Ticket.more_of_ne (by simp), Ticket.more_of_ne (by simp)]
      exact hstands
    · rw [Ticket.more_self, hinternal]
    · rw [Ticket.more_of_ne (by simp), hunskipped]

/-- The exit of an accepted attempt matches its entry. -/
theorem leave {policy : Policy} (h : Kept standing s c) (hpos : 0 < c ⟨b, policy, true⟩) :
    ∃ s', s.leave b policy = .ok s' ∧ Kept standing s' (Ticket.less ⟨b, policy, true⟩ c) := by
  have hstands := h.stands b
  have hinternal := h.internal b
  have hunskipped := h.unskipped b
  generalize hf : s.frame b = f at hstands hinternal
  cases policy with
  | boundary =>
    obtain ⟨howned, he, hone⟩ := hstands.of_accepted hpos
    rw [howned] at hstands
    refine ⟨_, by rw [Scopes.leave_boundary hf, if_pos he], ?_⟩
    refine h.keep (fun _ _ => rfl) (fun u hu => less_elsewhere hu) ?_ ?_ ?_
    · rw [Ticket.less_self, Ticket.less_of_ne (by simp), howned, hone]
      exact ⟨rfl, hstands.2⟩
    · rw [Ticket.less_of_ne (by simp), hinternal]
    · rw [Ticket.less_of_ne (by simp), hunskipped]
  | internal =>
    refine ⟨_, by rw [Scopes.leave_internal hf, if_pos (hinternal ▸ hpos)], ?_⟩
    refine h.keep (fun _ _ => rfl) (fun u hu => less_elsewhere hu) ?_ ?_ ?_
    · rw [Ticket.less_of_ne (by simp), Ticket.less_of_ne (by simp)]
      exact hstands
    · rw [Ticket.less_self, hinternal]
    · rw [Ticket.less_of_ne (by simp), hunskipped]

/-- A skipped ticket takes back its count; when there is none left, the entry is stranded. -/
theorem releaseSkipped (h : Kept standing s c) (hpos : 0 < c ⟨b, .boundary, false⟩) :
    Kept (if (s.frame b).skipped = 0 then Function.update standing b .stranded else standing)
      (s.releaseSkipped b) (Ticket.less ⟨b, .boundary, false⟩ c) := by
  have hstands := h.stands b
  have hinternal := h.internal b
  have hunskipped := h.unskipped b
  generalize hf : s.frame b = f at hstands hinternal ⊢
  rw [Scopes.releaseSkipped_eq hf]
  by_cases hnone : f.skipped = 0
  · obtain ⟨-, he, hzero, hone⟩ := hstands.of_uncounted hpos hnone
    rw [if_pos hnone]
    refine h.keep (fun other hne => Function.update_of_ne hne ..)
      (fun u hu => less_elsewhere hu) ?_ ?_ ?_
    · rw [Ticket.less_of_ne (by simp), Ticket.less_self, Function.update_self]
      exact ⟨he, hzero, by rw [hone, hnone]⟩
    · rw [Ticket.less_of_ne (by simp), hinternal]
    · rw [Ticket.less_of_ne (by simp), hunskipped]
  · rw [if_neg hnone]
    refine h.keep (fun _ _ => rfl) (fun u hu => less_elsewhere hu) ?_ ?_ ?_
    · rw [Ticket.less_of_ne (by simp), Ticket.less_self]
      exact hstands.unskip (Nat.pos_of_ne_zero hnone)
    · rw [Ticket.less_of_ne (by simp), hinternal]
    · rw [Ticket.less_of_ne (by simp), hunskipped]

/-- An attempt that uses up a skipped one is not told to leave; if it was accepted, it forsakes its
entry. -/
theorem canLeave_skipped {entered : Bool} (h : Kept standing s c)
    (hpos : 0 < c ⟨b, .boundary, entered⟩) (hskipped : 0 < (s.frame b).skipped) :
    (s.canLeave b .boundary).1 = false ∧
      Kept (if entered then Function.update standing b .forsaken else standing)
        (s.canLeave b .boundary).2 (Ticket.less ⟨b, .boundary, entered⟩ c) := by
  have hstands := h.stands b
  have hinternal := h.internal b
  have hunskipped := h.unskipped b
  generalize hf : s.frame b = f at hstands hinternal hskipped
  rw [Scopes.canLeave_boundary hf, if_pos hskipped]
  refine ⟨rfl, ?_⟩
  cases entered with
  | true =>
    obtain ⟨howned, he, hone⟩ := hstands.of_accepted hpos
    rw [howned] at hstands
    rw [if_pos rfl]
    refine h.keep (fun other hne => Function.update_of_ne hne ..)
      (fun u hu => less_elsewhere hu) ?_ ?_ ?_
    · rw [Ticket.less_self, Ticket.less_of_ne (by simp), Function.update_self, hone]
      exact ⟨he, rfl, hstands.2.trans (Nat.sub_add_cancel hskipped).symm⟩
    · rw [Ticket.less_of_ne (by simp), hinternal]
    · rw [Ticket.less_of_ne (by simp), hunskipped]
  | false =>
    refine h.keep (fun _ _ => rfl) (fun u hu => less_elsewhere hu) ?_ ?_ ?_
    · rw [Ticket.less_of_ne (by simp), Ticket.less_self]
      exact hstands.unskip hskipped
    · rw [Ticket.less_of_ne (by simp), hinternal]
    · rw [Ticket.less_of_ne (by simp), hunskipped]

/-- An attempt that finds no skipped one is told to leave, and the entry is its own from then
on. -/
theorem canLeave_entered {entered : Bool} (h : Kept standing s c)
    (hpos : 0 < c ⟨b, .boundary, entered⟩) (hnone : (s.frame b).skipped = 0) :
    s.canLeave b .boundary = (true, s) ∧
      Kept (Function.update standing b .owned) s
        (Ticket.more ⟨b, .boundary, true⟩ (Ticket.less ⟨b, .boundary, entered⟩ c)) := by
  have hstands := h.stands b
  refine ⟨by rw [Scopes.canLeave_boundary rfl, hnone]; rfl, ?_⟩
  cases entered with
  | true =>
    obtain ⟨howned, -, -⟩ := hstands.of_accepted hpos
    rw [Ticket.more_less hpos, ← howned, Function.update_eq_self]
    exact h
  | false =>
    obtain ⟨-, he, hzero, hone⟩ := hstands.of_uncounted hpos hnone
    have hothers : ∀ u : Ticket, u ≠ ⟨b, .boundary, true⟩ → u ≠ ⟨b, .boundary, false⟩ →
        Ticket.more ⟨b, .boundary, true⟩ (Ticket.less ⟨b, .boundary, false⟩ c) u = c u :=
      fun u hentered hrejected => by
        rw [Ticket.more_of_ne hentered, Ticket.less_of_ne hrejected]
    refine ⟨h.tidy, fun other => ?_, fun other => ?_, fun other => ?_⟩
    · by_cases hother : other = b
      · rw [hother, Function.update_self, Ticket.more_self, Ticket.more_of_ne (by simp),
          Ticket.less_self, Ticket.less_of_ne (by simp), hzero, hone]
        exact ⟨by rw [he]; rfl, hnone.symm⟩
      · rw [Function.update_of_ne hother, hothers _ (by simp [hother]) (by simp),
          hothers _ (by simp) (by simp [hother])]
        exact h.stands other
    · rw [hothers _ (by simp) (by simp), h.internal]
    · rw [hothers _ (by simp) (by simp), h.unskipped]

/-- What asking does to the standing of the boundaries. -/
theorem ask {t : Ticket} (h : Kept standing s c) (hpos : 0 < c t) :
    ∃ standing' : String → Standing,
      Kept standing' (s.canLeave t.boundary t.policy).2
        (if (s.canLeave t.boundary t.policy).1 then
          Ticket.more ⟨t.boundary, t.policy, true⟩ (t.less c) else t.less c) ∧
      (∀ b, standing' b = .stranded ↔ standing b = .stranded) ∧
      ∀ b, standing b = .owned → ¬ (t = ⟨b, .boundary, true⟩ ∧ 0 < c ⟨b, .boundary, false⟩) →
        standing' b = .owned := by
  obtain ⟨b, policy, entered⟩ := t
  cases policy with
  | internal =>
    have hentered : entered = true := by
      cases entered with
      | true => rfl
      | false => exact absurd (h.unskipped b) (Nat.ne_of_gt hpos)
    subst hentered
    refine ⟨standing, ?_, fun _ => Iff.rfl, fun _ howned _ => howned⟩
    rw [Scopes.canLeave_internal, if_pos rfl, Ticket.more_less hpos]
    exact h
  | boundary =>
    have hstands := h.stands b
    by_cases hnone : (s.frame b).skipped = 0
    · obtain ⟨htold, hkept⟩ := h.canLeave_entered hpos hnone
      refine ⟨Function.update standing b .owned, by rw [htold]; exact hkept, fun other => ?_,
        fun other howned _ => ?_⟩
      · by_cases hother : other = b
        · have hnot : standing b ≠ .stranded := by
            intro hstranded
            rw [hstranded] at hstands
            cases entered with
            | true => exact absurd hstands.2.1 (Nat.ne_of_gt hpos)
            | false => exact absurd (hstands.2.2.trans hnone) (Nat.ne_of_gt hpos)
          rw [hother, Function.update_self]
          exact iff_of_false (by decide) hnot
        · rw [Function.update_of_ne hother]
      · by_cases hother : other = b
        · rw [hother, Function.update_self]
        · rw [Function.update_of_ne hother, howned]
    · obtain ⟨htold, hkept⟩ := h.canLeave_skipped hpos (Nat.pos_of_ne_zero hnone)
      refine ⟨_, by rw [htold, if_neg (by decide)]; exact hkept, fun other => ?_,
        fun other howned hmisled => ?_⟩
      · cases entered with
        | false => exact Iff.rfl
        | true =>
          obtain ⟨howned, -, -⟩ := hstands.of_accepted hpos
          by_cases hother : other = b
          · rw [if_pos rfl, hother, Function.update_self, howned]
            exact iff_of_false (by decide) (by decide)
          · rw [if_pos rfl, Function.update_of_ne hother]
      · cases entered with
        | false => exact howned
        | true =>
          by_cases hother : other = b
          · -- the skipped attempt that was used up is an open one
            subst hother
            rw [howned] at hstands
            refine absurd ⟨rfl, ?_⟩ hmisled
            rw [hstands.2]
            exact Nat.pos_of_ne_zero hnone
          · rw [if_pos rfl, Function.update_of_ne hother, howned]

/-! ### What is left -/

theorem gated (h : Kept standing s c) (hb : standing b = .stranded) :
    s.state b = .entered ∧ (s.tryEnter b .boundary).1 = false := by
  have hstands := h.stands b
  rw [hb] at hstands
  refine ⟨Frame.state_eq_entered.mpr (.inl hstands.1), ?_⟩
  exact congrArg (fun r => r.1.entered) (Scopes.enter_skipped rfl hstands.1)

/-- Without open attempts, a boundary whose entry is somebody's is idle. -/
theorem frame_eq (h : Kept standing s c) (hnone : ∀ k, c k = 0) (hb : standing b ≠ .stranded) :
    s.frame b = {} := by
  have hstands := h.stands b
  have hinternal := h.internal b
  rw [hnone] at hinternal
  rw [hnone, hnone] at hstands
  cases hstanding : standing b with
  | stranded => exact absurd hstanding hb
  | forsaken =>
    rw [hstanding] at hstands
    exact absurd hstands.2.2 (Nat.zero_ne_add_one _)
  | owned =>
    rw [hstanding] at hstands
    obtain ⟨hentered, hskipped⟩ := hstands
    generalize s.frame b = f at hentered hskipped hinternal
    obtain ⟨entered, skipped, internalDepth⟩ := f
    cases entered with
    | true => cases hentered
    | false =>
      dsimp only at hskipped hinternal
      rw [← hskipped, ← hinternal]

theorem absent (h : Kept standing s c) (hnone : ∀ k, c k = 0) (hb : standing b ≠ .stranded) :
    s.frames.get? b = none := by
  cases hget : s.frames.get? b with
  | none => rfl
  | some f =>
    have hidle := h.tidy b f hget
    rw [← Scopes.frame_of_present hget, h.frame_eq hnone hb] at hidle
    cases hidle

end Kept

end ShadowTraffic
