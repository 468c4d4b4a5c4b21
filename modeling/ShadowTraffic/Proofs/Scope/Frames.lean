import ShadowTraffic.Scope

/-! # Frames as a total function

Every operation on a scope stack replaces the frame of one boundary and keeps the result unless it
is idle. As an absent frame is an idle one, the operations can be told without saying which frames
are there.
-/

namespace ShadowTraffic

theorem Frame.isIdle_iff {f : Frame} : f.isIdle = true ↔ f = {} := by
  cases f
  simp [isIdle, and_assoc]

theorem Frame.isIdle_eq_false {f : Frame} : f.isIdle = false ↔ 0 < f.depth := by
  obtain ⟨entered, skipped, internalDepth⟩ := f
  cases entered with
  | true =>
    simp only [isIdle, depth, Bool.not_true, Bool.false_and, true_iff, Bool.toNat_true]
    omega
  | false =>
    simp only [isIdle, depth, Bool.not_false, Bool.true_and, Bool.and_eq_false_iff,
      beq_eq_false_iff_ne, Bool.toNat_false]
    omega

theorem Frame.state_eq_entered {f : Frame} :
    f.state = .entered ↔ f.entered = true ∨ f.internalDepth > 0 := by
  unfold state
  by_cases hopen : (f.entered || decide (f.internalDepth > 0)) = true
  · rw [if_pos hopen]
    simpa using hopen
  · rw [if_neg hopen]
    simpa using hopen

namespace Scopes

/-- Only frames of boundaries with open attempts are kept. -/
def Tidy (s : Scopes) : Prop :=
  ∀ b f, s.frames.get? b = some f → f.isIdle = false

variable {s : Scopes} {b other : String} {f : Frame}

/-! ## Keeping a frame -/

theorem get?_keep : (s.keep b f).frames.get? other =
    if other = b then (if f.isIdle then none else some f) else s.frames.get? other := by
  unfold keep
  by_cases hidle : f.isIdle = true
  · rw [if_pos hidle, if_pos hidle, Dictionary.get?_erase]
  · rw [if_neg hidle, if_neg hidle, Dictionary.get?_insert]

theorem frame_keep : (s.keep b f).frame other = if other = b then f else s.frame other := by
  unfold frame
  rw [get?_keep]
  by_cases hother : other = b
  · rw [if_pos hother, if_pos hother]
    by_cases hidle : f.isIdle = true
    · rw [if_pos hidle, Frame.isIdle_iff.mp hidle]
      rfl
    · rw [if_neg hidle]
      rfl
  · rw [if_neg hother, if_neg hother]

theorem Tidy.keep (h : s.Tidy) : (s.keep b f).Tidy := by
  intro other g hg
  rw [get?_keep] at hg
  split at hg
  next =>
    split at hg
    next => cases hg
    next hidle =>
      cases hg
      simpa using hidle
  next => exact h other g hg

theorem insert_eq_keep (h : f.isIdle = false) : ⟨s.frames.insert b f⟩ = s.keep b f := by
  rw [keep, h]
  rfl

theorem keep_of_absent (h : s.frames.get? b = none) : s.keep b {} = s := by
  have hframes : s.frames.erase b = s.frames := by
    refine Dictionary.ext_get? fun other => ?_
    rw [Dictionary.get?_erase]
    split
    next heq => rw [heq, h]
    next => rfl
  show (⟨s.frames.erase b⟩ : Scopes) = s
  rw [hframes]

theorem frame_of_absent (h : s.frames.get? b = none) : s.frame b = {} := by
  rw [frame, h]
  rfl

theorem frame_of_present (h : s.frames.get? b = some f) : s.frame b = f := by
  rw [frame, h]
  rfl

/-- Without idle frames, a frame is there exactly when something is open. -/
theorem Tidy.isSome_iff (h : s.Tidy) :
    (s.frames.get? b).isSome = true ↔ (s.frame b).isIdle = false := by
  cases hb : s.frames.get? b with
  | none =>
    rw [frame_of_absent hb]
    exact iff_of_false nofun nofun
  | some f =>
    rw [frame_of_present hb, h b f hb]
    exact iff_of_true rfl rfl

/-- There is no idle frame to take away, so keeping the frame that is there changes nothing. -/
theorem Tidy.keep_frame (h : s.Tidy) (b : String) : s.keep b (s.frame b) = s := by
  cases hb : s.frames.get? b with
  | none =>
    rw [frame_of_absent hb]
    exact keep_of_absent hb
  | some f =>
    rw [frame_of_present hb, ← insert_eq_keep (h b f hb)]
    have hframes : s.frames.insert b f = s.frames := by
      refine Dictionary.ext_get? fun other => ?_
      rw [Dictionary.get?_insert]
      split
      next heq => rw [heq, hb]
      next => rfl
    rw [hframes]

/-! ## Operations -/

theorem enter_skipped (hf : s.frame b = f) (h : f.entered = true) :
    s.enter b .boundary =
      (⟨b, .boundary, false⟩, s.keep b { f with skipped := f.skipped + 1 }) := by
  subst hf
  simp only [enter, tryEnter, h, if_true]
  rw [insert_eq_keep (by simp [Frame.isIdle])]

theorem enter_accepted (hf : s.frame b = f) (h : f.entered = false) :
    s.enter b .boundary = (⟨b, .boundary, true⟩, s.keep b { f with entered := true }) := by
  subst hf
  simp only [enter, tryEnter, h, Bool.false_eq_true, if_false]
  rw [insert_eq_keep (by simp [Frame.isIdle])]

theorem enter_internal (hf : s.frame b = f) :
    s.enter b .internal =
      (⟨b, .internal, true⟩, s.keep b { f with internalDepth := f.internalDepth + 1 }) := by
  subst hf
  simp only [enter, tryEnter]
  rw [insert_eq_keep (by simp [Frame.isIdle])]

theorem leave_boundary (hf : s.frame b = f) : s.leave b .boundary =
    if f.entered then .ok (s.keep b { f with entered := false }) else .error ⟨b⟩ := by
  subst hf
  unfold leave
  cases hb : s.frames.get? b with
  | none => rw [frame_of_absent hb]; rfl
  | some f => rw [frame_of_present hb]

theorem leave_internal (hf : s.frame b = f) : s.leave b .internal =
    if f.internalDepth > 0 then .ok (s.keep b { f with internalDepth := f.internalDepth - 1 })
    else .error ⟨b⟩ := by
  subst hf
  unfold leave
  cases hb : s.frames.get? b with
  | none => rw [frame_of_absent hb]; rfl
  | some f => rw [frame_of_present hb]

/-- Whoever asks uses up a skipped attempt, if there is one. -/
theorem canLeave_boundary (hf : s.frame b = f) : s.canLeave b .boundary =
    if f.skipped > 0 then (false, s.keep b { f with skipped := f.skipped - 1 })
    else (true, s) := by
  subst hf
  unfold canLeave
  cases hb : s.frames.get? b with
  | none => rw [frame_of_absent hb]; rfl
  | some f => rw [frame_of_present hb]

theorem canLeave_internal : s.canLeave b .internal = (true, s) := rfl

theorem releaseSkipped_eq (hf : s.frame b = f) :
    s.releaseSkipped b = s.keep b { f with skipped := f.skipped - 1 } := by
  subst hf
  unfold releaseSkipped
  cases hb : s.frames.get? b with
  | none => exact frame_of_absent hb ▸ (keep_of_absent hb).symm
  | some f => rw [frame_of_present hb]

/-! ## Entries -/

theorem entered_keep : ((s.keep b f).frame other).entered =
    if other = b then f.entered else (s.frame other).entered := by
  rw [frame_keep]
  split <;> rfl

theorem enter_boundary_entered (s : Scopes) (b : String) :
    (s.enter b .boundary).1.entered = !(s.frame b).entered := by
  cases h : (s.frame b).entered with
  | true => rw [enter_skipped rfl h]; rfl
  | false => rw [enter_accepted rfl h]; rfl

/-- An attempt under the boundary policy leaves its boundary entered, accepted or not. -/
theorem entered_enter (s : Scopes) (b : String) (policy : Policy) (other : String) :
    ((s.enter b policy).2.frame other).entered =
      if policy = .boundary ∧ other = b then true else (s.frame other).entered := by
  cases policy with
  | internal =>
    rw [enter_internal rfl, entered_keep]
    split <;> simp_all
  | boundary =>
    cases h : (s.frame b).entered with
    | true => rw [enter_skipped rfl h, entered_keep]; simp [h]
    | false => rw [enter_accepted rfl h, entered_keep]; simp

theorem entered_canLeave (s : Scopes) (b : String) (policy : Policy) (other : String) :
    ((s.canLeave b policy).2.frame other).entered = (s.frame other).entered := by
  cases policy with
  | internal => rfl
  | boundary =>
    rw [canLeave_boundary rfl]
    split
    · rw [entered_keep]
      split <;> simp_all
    · rfl

theorem entered_of_leave {s' : Scopes} (h : s.leave b .boundary = .ok s') :
    (s.frame b).entered = true := by
  rw [leave_boundary rfl] at h
  split at h
  next hentered => exact hentered
  next => cases h

/-- An exit under the boundary policy gives the entry back. -/
theorem entered_leave {policy : Policy} {s' : Scopes} (h : s.leave b policy = .ok s')
    (other : String) : (s'.frame other).entered =
      if policy = .boundary ∧ other = b then false else (s.frame other).entered := by
  cases policy with
  | internal =>
    rw [leave_internal rfl] at h
    split at h
    · cases h
      rw [entered_keep]
      split <;> simp_all
    · cases h
  | boundary =>
    have hentered := entered_of_leave h
    rw [leave_boundary rfl, if_pos hentered] at h
    cases h
    rw [entered_keep]
    simp

end Scopes

end ShadowTraffic
