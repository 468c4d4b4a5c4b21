import ShadowTraffic.Scenario.Machine

/-! # What the guard of a scenario depends on

The scope guard lives in the stacks and in the frames that refer to them. Most of what a step does
to the world leaves both alone, and a step's arguments are read without changing anything.
-/

namespace ShadowTraffic.Scenario

/-- The scope stacks, and the frames that refer to them. -/
structure Guard where
  scopeStacks : Array Scopes
  frames : Array CallFrame

namespace Guard

def scopes (g : Guard) (k : StackId) : Scopes :=
  g.scopeStacks[k]?.getD {}

def setScopes (g : Guard) (k : StackId) (s : Scopes) : Guard :=
  { g with scopeStacks := g.scopeStacks.setIfInBounds k s }

/-- The stack of a frame. -/
def stackOf? (g : Guard) (f : FrameId) : Option StackId :=
  g.frames[f]?.map (·.scopes)

/-- The stack of the current call in a frame; outside any it is the thread's. -/
def current (g : Guard) (frame : Option FrameId) : StackId :=
  (frame.bind g.stackOf?).getD 0

def addStack (g : Guard) : Guard :=
  { g with scopeStacks := g.scopeStacks.push {} }

def addFrame (g : Guard) (traffic : TrafficContext) (k : StackId) : Guard :=
  { g with frames := g.frames.push { traffic, scopes := k } }

variable {g : Guard} {k j : StackId} {f : FrameId} {t : TrafficContext}

theorem scopes_setScopes (hk : k < g.scopeStacks.size) (s : Scopes) :
    (g.setScopes k s).scopes j = if j = k then s else g.scopes j := by
  unfold scopes setScopes
  rw [Array.getElem?_setIfInBounds]
  by_cases hj : j = k
  · rw [if_pos hj.symm, if_pos hj, if_pos (hj ▸ hk)]
    rfl
  · rw [if_neg (Ne.symm hj), if_neg hj]

theorem size_setScopes (s : Scopes) : (g.setScopes k s).scopeStacks.size = g.scopeStacks.size :=
  Array.size_setIfInBounds

/-- A new stack is as idle as one that is not there. -/
theorem scopes_addStack : g.addStack.scopes k = g.scopes k := by
  unfold scopes addStack
  rw [Array.getElem?_push]
  split
  next hk => rw [hk, Array.getElem?_eq_none (Nat.le_refl _)]; rfl
  next => rfl

theorem stackOf?_addFrame :
    (g.addFrame t k).stackOf? f = if f = g.frames.size then some k else g.stackOf? f := by
  unfold stackOf? addFrame
  rw [Array.getElem?_push]
  split <;> rfl

theorem stackOf?_addFrame_self : (g.addFrame t k).stackOf? g.frames.size = some k := by
  rw [stackOf?_addFrame, if_pos rfl]

theorem stackOf?_addFrame_of_some (h : g.stackOf? f = some j) :
    (g.addFrame t k).stackOf? f = some j := by
  have hlt : f ≠ g.frames.size := by
    rintro rfl
    rw [stackOf?, Array.getElem?_eq_none (Nat.le_refl _)] at h
    cases h
  rw [stackOf?_addFrame, if_neg hlt, h]

end Guard

namespace World

variable {w w' : World}

def guard (w : World) : Guard where
  scopeStacks := w.scopeStacks
  frames := w.frames

theorem scopes_eq (w : World) (k : StackId) : w.scopes k = w.guard.scopes k := rfl

theorem currentStack_eq (w : World) (here : Place) :
    w.currentStack here = w.guard.current here.frame := by
  have hstack : w.guard.current here.frame = ((w.frame? here).map (·.scopes)).getD 0 := by
    obtain ⟨frame, span⟩ := here
    cases frame <;> rfl
  rw [hstack, currentStack]
  cases w.frame? here <;> rfl

/-! ## Leaving the guard alone -/

@[simp] theorem guard_takeStretch {α : Type} (w : World) (id : RegistryId) (s : Stretch α) :
    (w.takeStretch id s).guard = w.guard := rfl

@[simp] theorem guard_setHandle (w : World) (h : Handle) (s : HandleState) :
    (w.setHandle h s).guard = w.guard := rfl

@[simp] theorem guard_write (w : World) (h : Handle) (row : String) :
    (w.write h row).2.guard = w.guard := rfl

@[simp] theorem guard_closeHandle (w : World) (h : Option Handle) :
    (w.closeHandle h).2.guard = w.guard := by
  cases h <;> rfl

@[simp] theorem guard_keepMediator (w : World) (name : Option String)
    (place : RegistryId × SlotId) : (w.keepMediator name place).guard = w.guard := by
  cases name <;> rfl

theorem guard_foldl {α : Type} {f : World → α → World} (h : ∀ w a, (f w a).guard = w.guard)
    (list : List α) (w : World) : (list.foldl f w).guard = w.guard := by
  induction list generalizing w with
  | nil => rfl
  | cons a list ih => rw [List.foldl_cons, ih, h]

@[simp] theorem guard_sweep (w : World) (used : List RegistryId) :
    (w.sweep used).guard = w.guard := by
  refine guard_foldl (fun w id => ?_) _ w
  split <;> rfl

/-! ## Changing it -/

theorem guard_capture (w : World) (here : Place) :
    (w.capture here).2.guard =
      w.guard.addFrame ((w.current? here).getD {}) (w.guard.current here.frame) := by
  rw [← currentStack_eq]
  rfl

/-- An interception opens a frame unless there is one, and enters its boundary there. -/
theorem guard_intercept (w : World) (here : Place) (x : CallArguments)
    (resource : Option String) :
    ∃ g : Guard,
      (here.frame = some (w.intercept here x resource).1.frame ∧ g = w.guard ∨
        here.frame = none ∧ (w.intercept here x resource).1.frame = w.guard.frames.size ∧
          g = w.guard.addStack.addFrame {} w.guard.scopeStacks.size) ∧
      (w.intercept here x resource).1.stack =
        g.current (some (w.intercept here x resource).1.frame) ∧
      (w.intercept here x resource).1.ticket =
        ((g.scopes (w.intercept here x resource).1.stack).enter x.boundary x.policy).1 ∧
      (w.intercept here x resource).2.guard =
        g.setScopes (w.intercept here x resource).1.stack
          ((g.scopes (w.intercept here x resource).1.stack).enter x.boundary x.policy).2 := by
  obtain ⟨frame, span⟩ := here
  cases frame with
  | some f => exact ⟨w.guard, .inl ⟨rfl, rfl⟩, currentStack_eq w _, rfl, rfl⟩
  | none =>
    exact ⟨(w.newFrame {}).2.guard, .inr ⟨rfl, rfl, rfl⟩, currentStack_eq (w.newFrame {}).2 _, rfl,
      rfl⟩

theorem guard_dropTicket (w : World) (k : StackId) (t : Ticket) :
    (w.dropTicket k t).guard = w.guard.setScopes k ((w.guard.scopes k).exit t).1 := rfl

theorem guard_dropTicket_congr (h : w'.guard = w.guard) (k : StackId) (t : Ticket) :
    (w'.dropTicket k t).guard = (w.dropTicket k t).guard := by
  rw [guard_dropTicket, guard_dropTicket, h]

theorem guard_cleanUp_congr (h : w'.guard = w.guard) (e : Ending) :
    (e.cleanUp w').guard = (e.cleanUp w).guard := by
  cases e with
  | task => exact h
  | done path => exact h
  | caught path => exact h
  | thread path => exact h
  | guarded path k t => exact guard_dropTicket_congr h k t
  | call path envelope =>
    cases hticket : envelope.ticket with
    | none => simpa only [Ending.cleanUp, hticket] using h
    | some held =>
      simpa only [Ending.cleanUp, hticket] using guard_dropTicket_congr h held.1 held.2

end World

/-! ## Reading arguments -/

namespace Act

variable {α β : Type} {act : Act α}

/-- An action that leaves the world as it is. -/
def Reads (act : Act α) : Prop :=
  ∀ w, (act.run w).2 = w

theorem reads_pure (a : α) : Reads (pure a) := fun _ => rfl

theorem reads_arg (a : Arg α) : Reads (a : Act α) := by
  intro w
  cases a <;> rfl

theorem run_bind (act : Act α) (next : α → Act β) (w : World) :
    (act >>= next).run w =
      match act.run w with
      | (.ok a, w) => (next a).run w
      | (.error r, w) => (.error r, w) := by
  simp only [bind, ExceptT.bind, ExceptT.mk, ExceptT.run, StateT.bind, ExceptT.bindCont]
  generalize act w = result
  obtain ⟨x, w'⟩ := result
  cases x <;> rfl

theorem Reads.bind {next : α → Act β} (h : Reads act) (hnext : ∀ a, Reads (next a)) :
    Reads (act >>= next) := by
  intro w
  have hw := h w
  rw [run_bind]
  generalize act.run w = result at hw ⊢
  obtain ⟨x, w'⟩ := result
  subst hw
  cases x with
  | error r => rfl
  | ok a => exact hnext a w'

theorem reads_world : Reads Act.world := fun _ => rfl

theorem reads_known (field : String) (names : World → Dictionary α) (name : Arg String) :
    Reads (Act.known field names name) := by
  refine reads_world.bind fun w => (reads_arg name).bind fun name => ?_
  split
  · exact reads_pure _
  · exact fun _ => rfl

end Act

namespace Machine

open Act

theorem reads_substituteOf (recipe : Option (Arg SubstituteRecipe)) :
    Reads (substituteOf recipe) := by
  cases recipe with
  | none => exact reads_pure _
  | some recipe => exact (reads_arg recipe).bind fun _ => reads_pure _

theorem reads_contextOr (name : Option (Arg String)) : Reads (contextOr name) := by
  cases name with
  | none => exact reads_pure _
  | some name => exact reads_known _ _ name

theorem reads_callArguments (s : InterceptStep) : Reads (callArguments s) :=
  (reads_known _ _ _).bind fun _ => (reads_known _ _ _).bind fun _ => (reads_arg _).bind fun _ =>
    (reads_arg _).bind fun _ => (reads_arg _).bind fun _ => (reads_substituteOf _).bind fun _ =>
      reads_pure _

/-- A step whose arguments are only read is refused, or goes on with them. -/
theorem attempt_cases {α : Type} {act : Act α} (h : Reads act) (m : Machine) (path : Path)
    (go : α → Machine → Machine) :
    (∃ r, m.attempt path act go = m.answer path (.refused r)) ∨
      ∃ a, (act.run m.world).1 = .ok a ∧ m.attempt path act go = go a m := by
  have hworld := h m.world
  unfold attempt
  generalize act.run m.world = result at hworld ⊢
  obtain ⟨x, w⟩ := result
  dsimp only at hworld
  subst hworld
  cases x with
  | error r => exact .inl ⟨r, rfl⟩
  | ok a => exact .inr ⟨a, rfl, rfl⟩

end Machine

end ShadowTraffic.Scenario
