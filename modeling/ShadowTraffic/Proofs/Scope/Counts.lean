import Mathlib.Logic.Function.Basic
import ShadowTraffic.Proofs.Scope.Frames
import ShadowTraffic.Telemetry.Effect

/-! # Attempts that end innermost first

When the attempts on a boundary end in the reverse order of their beginnings, nothing matters about
them but how many are open under each policy. As long as there are any under the boundary policy,
the first one of these is the accepted one.
-/

namespace ShadowTraffic

/-- One more attempt under a policy. -/
def Policy.more (policy : Policy) (c : Policy → Nat) : Policy → Nat :=
  Function.update c policy (c policy + 1)

/-- Whether an attempt is accepted beside so many open ones. -/
def Policy.Accepts (policy : Policy) (c : Policy → Nat) : Prop :=
  policy = .internal ∨ c .boundary = 0

instance (policy : Policy) (c : Policy → Nat) : Decidable (policy.Accepts c) :=
  inferInstanceAs (Decidable (_ ∨ _))

namespace Frame

variable {c : Policy → Nat}

/-- The frame of a boundary with so many open attempts under each policy. -/
def ofCounts (c : Policy → Nat) : Frame where
  entered := decide (0 < c .boundary)
  skipped := c .boundary - 1
  internalDepth := c .internal

theorem ofCounts_none : ofCounts (fun _ => 0) = {} := rfl

theorem eq_of_depth_eq_zero {f : Frame} (h : f.depth = 0) : f = {} := by
  cases hidle : f.isIdle with
  | true => exact isIdle_iff.mp hidle
  | false => exact absurd h (Nat.ne_of_gt (isIdle_eq_false.mp hidle))

theorem ofCounts_first (h : c .boundary = 0) :
    ofCounts (Policy.boundary.more c) = { ofCounts c with entered := true } := by
  simp [ofCounts, Policy.more, h]

theorem ofCounts_nested (h : c .boundary ≠ 0) :
    ofCounts (Policy.boundary.more c) =
      { ofCounts c with skipped := (ofCounts c).skipped + 1 } := by
  have hpos : 0 < c .boundary := Nat.pos_of_ne_zero h
  simp [ofCounts, Policy.more, hpos, Nat.sub_add_cancel hpos]

theorem ofCounts_internal :
    ofCounts (Policy.internal.more c) =
      { ofCounts c with internalDepth := (ofCounts c).internalDepth + 1 } := by
  simp [ofCounts, Policy.more]

end Frame

namespace Scopes

variable {s : Scopes} {b : String} {c : Policy → Nat}

theorem enter_counts (h : s.frame b = .ofCounts c) (policy : Policy) :
    s.enter b policy =
      (⟨b, policy, decide (policy.Accepts c)⟩, s.keep b (.ofCounts (policy.more c))) := by
  cases policy with
  | internal => rw [enter_internal h, Frame.ofCounts_internal]; rfl
  | boundary =>
    by_cases hfirst : c .boundary = 0
    · have hidle : (Frame.ofCounts c).entered = false := by simp [Frame.ofCounts, hfirst]
      rw [enter_accepted h hidle, Frame.ofCounts_first hfirst]
      simp [Policy.Accepts, hfirst]
    · have hentered : (Frame.ofCounts c).entered = true := by
        simp [Frame.ofCounts, Nat.pos_of_ne_zero hfirst]
      rw [enter_skipped h hentered, Frame.ofCounts_nested hfirst]
      simp [Policy.Accepts, hfirst]

/-- The innermost attempt ends, and all is as it was before it. -/
theorem exit_counts {policy : Policy} (h : s.frame b = .ofCounts (policy.more c)) :
    (s.exit ⟨b, policy, decide (policy.Accepts c)⟩).1 = s.keep b (.ofCounts c) := by
  cases policy with
  | internal =>
    rw [Frame.ofCounts_internal] at h
    simp [exit, drop, Policy.Accepts, leave_internal h]
  | boundary =>
    by_cases hfirst : c .boundary = 0
    · rw [Frame.ofCounts_first hfirst] at h
      have hidle : (Frame.ofCounts c).entered = false := by simp [Frame.ofCounts, hfirst]
      simp [exit, drop, Policy.Accepts, hfirst, leave_boundary h, ← hidle]
    · rw [Frame.ofCounts_nested hfirst] at h
      simp [exit, drop, Policy.Accepts, hfirst, releaseSkipped_eq h]

end Scopes

end ShadowTraffic
