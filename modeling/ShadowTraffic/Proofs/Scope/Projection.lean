import ShadowTraffic.Proofs.Runs
import ShadowTraffic.Proofs.Scope.Frames

/-! # One boundary among others

Any actions on one scope stack, in any order and also ill-formed ones. What an action answers and
what it leaves is settled by the frame of its boundary alone, so that a caller is answered alike
when those that use other boundaries are left out.
-/

namespace ShadowTraffic

/-- What can be done with one boundary of a scope stack. -/
inductive ScopeAction where
  | tryEnter (policy : Policy)
  | canLeave (policy : Policy)
  | leave (policy : Policy)
  /-- The ticket of a skipped attempt is dropped. -/
  | releaseSkipped
  | state
  | depth
deriving DecidableEq

inductive ScopeAnswer where
  | decided (yes : Bool)
  | done
  | refused (e : NotEntered)
  | inState (state : ScopeState)
  | atDepth (n : Nat)
deriving DecidableEq

/-- One action carried out for a caller. -/
structure ScopeStep (α : Type) where
  caller : α
  answer : ScopeAnswer
  after : Scopes

namespace Scopes

/-- Carries out an action; a refused one leaves everything as it is. -/
def act (s : Scopes) (b : String) : ScopeAction → ScopeAnswer × Scopes
  | .tryEnter policy => (.decided (s.tryEnter b policy).1, (s.tryEnter b policy).2)
  | .canLeave policy => (.decided (s.canLeave b policy).1, (s.canLeave b policy).2)
  | .leave policy =>
    match s.leave b policy with
    | .ok s' => (.done, s')
    | .error e => (.refused e, s)
  | .releaseSkipped => (.done, s.releaseSkipped b)
  | .state => (.inState (s.state b), s)
  | .depth => (.atDepth (s.depth b), s)

/-- Callers on one stack, each on a boundary of its own choice. -/
def system {α : Type} (boundary : α → String) :
    System Scopes (α × ScopeAction) (ScopeStep α) where
  step s e :=
    let (answer, after) := s.act (boundary e.1) e.2
    some { caller := e.1, answer, after }
  after t := t.after

/-- What one of the callers is answered, from a stack on. -/
def answersTo {α : Type} [DecidableEq α] (boundary : α → String) (caller : α) (s : Scopes)
    (schedule : List (α × ScopeAction)) : List ScopeAnswer :=
  (((system boundary).run s schedule).transitions.filter (·.caller = caller)).map (·.answer)

end Scopes

/-! ## Actions -/

/-- An action as the frame of its boundary sees it. -/
def Frame.act (f : Frame) (b : String) : ScopeAction → ScopeAnswer × Frame
  | .tryEnter .boundary =>
    if f.entered then (.decided false, { f with skipped := f.skipped + 1 })
    else (.decided true, { f with entered := true })
  | .tryEnter .internal => (.decided true, { f with internalDepth := f.internalDepth + 1 })
  | .canLeave .boundary =>
    if f.skipped > 0 then (.decided false, { f with skipped := f.skipped - 1 })
    else (.decided true, f)
  | .canLeave .internal => (.decided true, f)
  | .leave .boundary =>
    if f.entered then (.done, { f with entered := false }) else (.refused ⟨b⟩, f)
  | .leave .internal =>
    if f.internalDepth > 0 then (.done, { f with internalDepth := f.internalDepth - 1 })
    else (.refused ⟨b⟩, f)
  | .releaseSkipped => (.done, { f with skipped := f.skipped - 1 })
  | .state => (.inState f.state, f)
  | .depth => (.atDepth f.depth, f)

namespace Scopes

variable {s : Scopes} {b : String} {f : Frame}

/-- An answer and a stack that are those of a frame put in the place of its boundary. -/
structure Tells (s : Scopes) (b : String) (told : ScopeAnswer × Frame)
    (r : ScopeAnswer × Scopes) : Prop where
  answer : r.1 = told.1
  frame : ∀ other, r.2.frame other = if other = b then told.2 else s.frame other

theorem Tells.keep (s : Scopes) (b : String) (answer : ScopeAnswer) (f : Frame) :
    Tells s b (answer, f) (answer, s.keep b f) :=
  ⟨rfl, fun _ => frame_keep⟩

theorem Tells.same (hf : s.frame b = f) (answer : ScopeAnswer) :
    Tells s b (answer, f) (answer, s) := by
  refine ⟨rfl, fun other => ?_⟩
  split
  next heq => rw [heq, hf]
  next => rfl

theorem tells_tryEnter (hf : s.frame b = f) (policy : Policy) :
    Tells s b (f.act b (.tryEnter policy)) (s.act b (.tryEnter policy)) := by
  have henter : s.act b (.tryEnter policy) =
      (.decided (s.enter b policy).1.entered, (s.enter b policy).2) := rfl
  rw [henter]
  cases policy with
  | internal =>
    rw [enter_internal hf]
    exact .keep ..
  | boundary =>
    rw [Frame.act]
    split
    next h =>
      rw [enter_skipped hf h]
      exact .keep ..
    next h =>
      rw [enter_accepted hf (by simpa using h)]
      exact .keep ..

theorem tells_canLeave (hf : s.frame b = f) (policy : Policy) :
    Tells s b (f.act b (.canLeave policy)) (s.act b (.canLeave policy)) := by
  cases policy with
  | internal => exact .same hf _
  | boundary =>
    rw [act, Frame.act, canLeave_boundary hf]
    split
    · exact .keep ..
    · exact .same hf _

theorem tells_leave (hf : s.frame b = f) (policy : Policy) :
    Tells s b (f.act b (.leave policy)) (s.act b (.leave policy)) := by
  cases policy with
  | boundary =>
    rw [act, Frame.act, leave_boundary hf]
    split
    · exact .keep ..
    · exact .same hf _
  | internal =>
    rw [act, Frame.act, leave_internal hf]
    split
    · exact .keep ..
    · exact .same hf _

theorem tells_act (hf : s.frame b = f) (a : ScopeAction) :
    Tells s b (f.act b a) (s.act b a) := by
  cases a with
  | tryEnter policy => exact tells_tryEnter hf policy
  | canLeave policy => exact tells_canLeave hf policy
  | leave policy => exact tells_leave hf policy
  | releaseSkipped =>
    rw [act, releaseSkipped_eq hf]
    exact .keep ..
  | state =>
    rw [act, state, hf]
    exact .same hf _
  | depth =>
    rw [act, depth, hf]
    exact .same hf _

/-- The frame of its boundary settles an action. -/
theorem act_congr {s' : Scopes} (h : s.frame b = s'.frame b) (a : ScopeAction) :
    (s.act b a).1 = (s'.act b a).1 ∧ (s.act b a).2.frame b = (s'.act b a).2.frame b := by
  have hact := tells_act h a
  have hact' := tells_act (rfl : s'.frame b = _) a
  rw [hact.answer, hact'.answer, hact.frame, hact'.frame, if_pos rfl, if_pos rfl]
  exact ⟨rfl, rfl⟩

theorem frame_act_ne {other : String} (h : other ≠ b) (s : Scopes) (a : ScopeAction) :
    (s.act b a).2.frame other = s.frame other := by
  rw [(tells_act (rfl : s.frame b = _) a).frame, if_neg h]

/-! ## Runs -/

section

variable {α : Type} {boundary : α → String} {caller other : α}
  {schedule : List (α × ScopeAction)}

theorem transitions_cons (s : Scopes) (v : α) (a : ScopeAction) :
    ((system boundary).run s ((v, a) :: schedule)).transitions =
      { caller := v, answer := (s.act (boundary v) a).1, after := (s.act (boundary v) a).2 } ::
        ((system boundary).run (s.act (boundary v) a).2 schedule).transitions :=
  congrArg Run.transitions (System.run_cons_some rfl schedule)

variable [DecidableEq α]

theorem answersTo_cons_self (s : Scopes) (a : ScopeAction) :
    answersTo boundary caller s ((caller, a) :: schedule) =
      (s.act (boundary caller) a).1 ::
        answersTo boundary caller (s.act (boundary caller) a).2 schedule := by
  simp [answersTo, transitions_cons]

theorem answersTo_cons_ne (h : other ≠ caller) (s : Scopes) (a : ScopeAction) :
    answersTo boundary caller s ((other, a) :: schedule) =
      answersTo boundary caller (s.act (boundary other) a).2 schedule := by
  simp [answersTo, transitions_cons, h]

/-- Those who do not use the boundary of a caller may be left out. -/
theorem answersTo_filter {p : α → Bool} {s s' : Scopes}
    (hp : ∀ v, boundary v = boundary caller → p v = true)
    (hframe : s.frame (boundary caller) = s'.frame (boundary caller)) :
    answersTo boundary caller s schedule =
      answersTo boundary caller s' (schedule.filter fun e => p e.1) := by
  have hother {s s' : Scopes} {e : α × ScopeAction} (hne : boundary e.1 ≠ boundary caller)
      (h : s.frame (boundary caller) = s'.frame (boundary caller)) :
      (s.act (boundary e.1) e.2).2.frame (boundary caller) = s'.frame (boundary caller) := by
    rw [frame_act_ne (Ne.symm hne), h]
  refine System.Overlooks.run_filter (R := fun s s' => s.frame (boundary caller) =
    s'.frame (boundary caller)) ⟨fun {s s' e} h _ => ?_, fun {s s' e} h hleft => ?_⟩ hframe schedule
  · -- whoever acts, the frame at the caller's boundary is the same afterwards
    by_cases hself : boundary e.1 = boundary caller
    · obtain ⟨hanswer, hafter⟩ := act_congr (hself ▸ h) e.2
      exact ⟨_, _, rfl, rfl, hself ▸ hafter, rfl, fun _ => hanswer⟩
    · have hkept := frame_act_ne (Ne.symm hself) s' e.2
      exact ⟨_, _, rfl, rfl, (hother hself h).trans hkept.symm, rfl,
        fun hcaller => absurd (congrArg boundary (of_decide_eq_true hcaller)) hself⟩
  · have hne : boundary e.1 ≠ boundary caller := fun heq => by
      rw [hp e.1 heq] at hleft
      cases hleft
    exact ⟨_, rfl, hother hne h, decide_eq_false fun hself => hne (congrArg boundary hself)⟩

end

end Scopes

end ShadowTraffic
