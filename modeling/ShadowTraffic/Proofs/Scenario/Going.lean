import Mathlib.Data.List.Forall2
import ShadowTraffic.Proofs.Scenario.Guard

/-! # Going on inside the bodies of a task

Seen from the guard, a small step of a scenario's only task does one of three things. The task goes
on inside the bodies that it is inside of; or it leaves some of the innermost ones; or it opens one
more. Here it goes on, as it does all the while a mediator is looked up: the guard is left alone,
and of the calls at most the innermost enters another phase.
-/

namespace ShadowTraffic

/-! ## Phases of nested invocations -/

/-- A nested invocation, whose call runs untouched. -/
def DispatchPhase.Reentrant {α ε : Type} : DispatchPhase α ε → Prop
  | .calling .reentrant .. => True
  | _ => False

namespace Dispatcher

variable {α ε : Type} {d : Dispatcher} {rules : Rules} {t : TrafficContext} {boundary : String}
  {resource : Option String} {substitute : Option (Substitute α ε)} {span : Option SpanId}

theorem not_reentrant_start : ¬ (d.start rules t resource substitute span).1.Reentrant := by
  unfold start
  cases d.judge rules t resource substitute <;> exact id

theorem not_reentrant_found (m : Mediator) :
    ¬ (d.found m span : DispatchPhase α ε × List Effect).1.Reentrant := by
  show ¬ (DispatchPhase.calling (targetRoute (target m)) (target m) _).Reentrant
  cases target m <;> exact id

/-- The guard alone makes an invocation a nested one. -/
theorem reentrant_mediate {entered : Bool} {around : Option SpanId} {fresh : SpanId} :
    (d.mediate rules t boundary resource substitute entered around fresh).1.Reentrant ↔
      entered = false := by
  cases entered with
  | true => exact iff_of_false not_reentrant_start (by simp)
  | false => exact iff_of_true trivial rfl

end Dispatcher

namespace Scenario

theorem World.reentrant_intercept (w : World) (here : Place) (x : CallArguments)
    (resource : Option String) :
    (w.intercept here x resource).1.phase.Reentrant ↔
      (w.intercept here x resource).1.ticket.entered = false :=
  Dispatcher.reentrant_mediate

/-! ## Going on -/

def Ending.isCall : Ending → Bool
  | .call .. => true
  | _ => false

/-- An activation further on: of its call at most the phase has changed, and only by the mediator
that it looked up. -/
structure Activation.Continues (a a' : Activation) : Prop where
  frame : a'.frame = a.frame
  rest : a'.rest ⊆ a.rest
  ending : a'.ending = a.ending ∨ ∃ path e phase, a.ending = .call path e ∧
    e.phase = .consulting ∧ ¬ phase.Reentrant ∧ a'.ending = .call path { e with phase }

namespace Activation

variable {a a' a'' : Activation} {list list' list'' : List Activation}

theorem Continues.refl (a : Activation) : Continues a a :=
  ⟨rfl, List.Subset.refl _, .inl rfl⟩

theorem Continues.trans (h : Continues a a') (h' : Continues a' a'') : Continues a a'' where
  frame := h'.frame.trans h.frame
  rest := List.Subset.trans h'.rest h.rest
  ending := by
    rcases h.ending with hsame | ⟨path, e, phase, ha, he, hphase, ha'⟩
    · rw [← hsame]
      exact h'.ending
    · rcases h'.ending with hsame | ⟨path', e', phase', he', -, hphase', ha''⟩
      · rw [hsame, ha']
        exact .inr ⟨path, e, phase, ha, he, hphase, rfl⟩
      · rw [ha'] at he'
        cases he'
        exact .inr ⟨path, e, phase', ha, he, hphase', ha''⟩

/-- Only a call's ending changes. -/
theorem Continues.ending_of (h : Continues a a') {e : Ending} (ha : a.ending = e)
    (hcall : e.isCall = false) : a'.ending = e := by
  rcases h.ending with hsame | ⟨path, envelope, -, ha', -⟩
  · exact hsame.trans ha
  · rw [← ha, ha'] at hcall
    cases hcall

theorem continue_refl (list : List Activation) : List.Forall₂ Continues list list :=
  List.forall₂_same.mpr fun a _ => .refl a

theorem continue_trans (h : List.Forall₂ Continues list list')
    (h' : List.Forall₂ Continues list' list'') : List.Forall₂ Continues list list'' := by
  induction h generalizing list'' with
  | nil => exact h'
  | cons head tail ih =>
    cases h' with
    | cons head' tail' => exact .cons (head.trans head') (ih tail')

end Activation

namespace Task

/-- The innermost body of a task is a call that waits for its mediator. -/
def Consults (t : Task) : Prop :=
  ∃ a path e outer, t.activations = a :: outer ∧ a.ending = .call path e ∧
    e.phase = .consulting

/-- A look-up is always that of the innermost call. -/
def Looks (t : Task) : Prop :=
  ∀ f, t.focus = .fetching f → f.use = .lookup → t.Consults

theorem Looks.of_stepping {t : Task} (h : t.focus = .stepping) : t.Looks := by
  intro f hf
  rw [h] at hf
  cases hf

end Task

namespace Machine

/-- The only task goes on inside its bodies. -/
structure Goes (m m' : Machine) : Prop where
  guard : m'.world.guard = m.world.guard
  size : m'.tasks.size = m.tasks.size
  bodies : List.Forall₂ Activation.Continues (m.task 0).activations (m'.task 0).activations
  looks : (m'.task 0).Looks

variable {m m' m'' : Machine}

theorem Goes.trans (h : Goes m m') (h' : Goes m' m'') : Goes m m'' where
  guard := h'.guard.trans h.guard
  size := h'.size.trans h.size
  bodies := Activation.continue_trans h.bodies h'.bodies
  looks := h'.looks

theorem task_congr (h : m'.tasks = m.tasks) (id : TaskId) : m'.task id = m.task id := by
  rw [task, h, task]

/-- Only bodies and guard matter of where it comes from. -/
theorem Goes.start_congr (h : Goes m' m'') (hguard : m'.world.guard = m.world.guard)
    (htasks : m'.tasks = m.tasks) : Goes m m'' where
  guard := h.guard.trans hguard
  size := by rw [h.size, htasks]
  bodies := by
    rw [← task_congr htasks]
    exact h.bodies
  looks := h.looks

/-- Only the task and the guard matter of where it leads. -/
theorem Goes.end_congr (h : Goes m m') (hguard : m''.world.guard = m'.world.guard)
    (htasks : m''.tasks = m'.tasks) : Goes m m'' where
  guard := hguard.trans h.guard
  size := by rw [htasks, h.size]
  bodies := by
    rw [task_congr htasks]
    exact h.bodies
  looks := by
    rw [task_congr htasks]
    exact h.looks

theorem Goes.refl (h : (m.task 0).Looks) : Goes m m :=
  ⟨rfl, rfl, Activation.continue_refl _, h⟩

/-! ## Moves that leave tasks and guard alone -/

@[simp] theorem guard_emit (m : Machine) (origin : Origin) (reply : Reply) :
    (m.emit origin reply).world.guard = m.world.guard :=
  World.guard_sweep ..

@[simp] theorem guard_answer (m : Machine) (path : Path) (reply : Reply) :
    (m.answer path reply).world.guard = m.world.guard :=
  World.guard_sweep ..

theorem wake_eq (m : Machine) (id : TaskId) : ∃ ready, m.wake id = { m with ready } := by
  unfold wake
  split
  · exact ⟨_, rfl⟩
  · exact ⟨_, rfl⟩

theorem wakeAll_eq (m : Machine) (ids : List TaskId) :
    ∃ ready, m.wakeAll ids = { m with ready } := by
  induction ids generalizing m with
  | nil => exact ⟨_, rfl⟩
  | cons id ids ih =>
    obtain ⟨ready, hwake⟩ := wake_eq m id
    obtain ⟨ready', hall⟩ := ih { m with ready }
    exact ⟨ready', by rw [wakeAll, List.foldl_cons, hwake]; exact hall⟩

@[simp] theorem tasks_wakeAll (m : Machine) (ids : List TaskId) :
    (m.wakeAll ids).tasks = m.tasks := by
  obtain ⟨ready, h⟩ := wakeAll_eq m ids
  rw [h]

@[simp] theorem world_wakeAll (m : Machine) (ids : List TaskId) :
    (m.wakeAll ids).world = m.world := by
  obtain ⟨ready, h⟩ := wakeAll_eq m ids
  rw [h]

/-! ## Changing the task -/

theorem task_modifyTask (hsize : m.tasks.size = 1) (f : Task → Task) :
    (m.modifyTask 0 f).task 0 = f (m.task 0) := by
  have h0 : m.tasks[0]? = some m.tasks[0] := Array.getElem?_eq_getElem _
  simp [task, modifyTask, Array.getElem?_modify, h0]

theorem size_modifyTask (f : Task → Task) : (m.modifyTask 0 f).tasks.size = m.tasks.size := by
  simp [modifyTask]

/-- The focus changes, to one that fits. -/
theorem Goes.setFocus (hsize : m.tasks.size = 1) {focus : Focus}
    (hfocus : ∀ f, focus = .fetching f → f.use = .lookup → (m.task 0).Consults) :
    Goes m (m.setFocus 0 focus) where
  guard := rfl
  size := size_modifyTask _
  bodies := by
    rw [Machine.setFocus, task_modifyTask hsize]
    exact Activation.continue_refl _
  looks := by
    rw [Machine.setFocus, task_modifyTask hsize]
    exact hfocus

/-! ## Look-ups -/

theorem setPhase_call {a : Activation} {outer : List Activation} {path : Path} {e : Envelope}
    {phase : DispatchPhase String String} (ha : a.ending = .call path e)
    (hphase : phase = e.phase ∨ e.phase = .consulting ∧ ¬ phase.Reentrant) :
    List.Forall₂ Activation.Continues (a :: outer) (setPhase phase (a :: outer)) := by
  simp only [setPhase, ha]
  refine .cons ⟨rfl, ?_, ?_⟩ (Activation.continue_refl outer)
  · dsimp only
    split
    · exact List.nil_subset _
    · exact List.Subset.refl _
  · rcases hphase with rfl | ⟨he, hphase⟩
    · exact .inl ha.symm
    · exact .inr ⟨path, e, phase, ha, he, hphase, rfl⟩

/-- The innermost call enters a phase that was decided before or that its mediator decides. -/
theorem Goes.enterPhase (hsize : m.tasks.size = 1) {a : Activation} {outer : List Activation}
    {path : Path} {e : Envelope} {phase : DispatchPhase String String}
    (hbodies : (m.task 0).activations = a :: outer) (ha : a.ending = .call path e)
    (hphase : phase = e.phase ∨ e.phase = .consulting ∧ ¬ phase.Reentrant) (named : Path)
    (business : Handle) : Goes m (m.enterPhase 0 named business phase) := by
  have hentered : Goes m (m.modifyTask 0 fun t =>
      { t with activations := setPhase phase t.activations, focus := .stepping }) := by
    refine ⟨rfl, size_modifyTask _, ?_, ?_⟩
    · rw [task_modifyTask hsize, hbodies]
      exact setPhase_call ha hphase
    · rw [task_modifyTask hsize]
      exact .of_stepping rfl
  cases phase with
  | consulting => exact hentered
  | ended result => exact hentered
  | calling route target mediator => exact hentered.end_congr (guard_emit ..) rfl

theorem Goes.found (hsize : m.tasks.size = 1) (hconsults : (m.task 0).Consults)
    (mediator : Mediator) : Goes m (m.found 0 mediator) := by
  obtain ⟨a, path, e, outer, hbodies, ha, he⟩ := hconsults
  obtain ⟨ending, start, next, rest, frame, span⟩ := a
  dsimp only at ha
  subst ha
  rw [Machine.found, hbodies]
  dsimp only
  have hphase : ¬ ((m.world.dispatcher e.dispatcher).found mediator (m.place 0).span :
      DispatchPhase String String × List Effect).1.Reentrant :=
    Dispatcher.not_reentrant_found mediator
  generalize (m.world.dispatcher e.dispatcher).found mediator (m.place 0).span = found
    at hphase ⊢
  obtain ⟨phase, effects⟩ := found
  dsimp only at hphase ⊢
  have hentered : Goes (m.take effects) ((m.take effects).enterPhase 0 path e.business phase) :=
    .enterPhase (m := m.take effects) hsize hbodies rfl (.inr ⟨he, hphase⟩) path e.business
  exact hentered.start_congr rfl rfl

/-- A stretch of a fetch is taken in; that of a look-up belongs to the innermost call. -/
theorem Goes.takeFetch (hsize : m.tasks.size = 1) {f : Fetching}
    (hlook : f.use = .lookup → (m.task 0).Consults) (s : Stretch FetchOutcome) :
    Goes m (m.takeFetch 0 f s) := by
  unfold Machine.takeFetch
  dsimp only
  generalize htaken : Machine.wakeAll { m with world := m.world.takeStretch f.registry s }
    s.woken = taken
  have hguard : taken.world.guard = m.world.guard := by rw [← htaken]; simp
  have htasks : taken.tasks = m.tasks := by rw [← htaken]; simp
  refine Goes.start_congr ?_ hguard htasks
  rw [← htasks] at hsize
  rw [← task_congr htasks] at hlook
  split
  next phase houtcome =>
    have hpending : Goes taken (taken.setFocus 0 (.fetching { f with phase, build := none })) := by
      refine .setFocus hsize ?_
      rintro g ⟨⟩ hg
      exact hlook hg
    split
    · exact hpending.end_congr rfl rfl
    · exact hpending
  next slot houtcome =>
    have hstepping : Goes taken (taken.setFocus 0 .stepping) :=
      .setFocus hsize fun f hf => by cases hf
    split
    next path keptAs hanswer =>
      refine hstepping.end_congr ?_ rfl
      rw [guard_answer]
      exact World.guard_keepMediator ..
    next mediator huse hmediator =>
      refine hstepping.trans (.found ?_ ?_ mediator)
      · rw [hstepping.size, hsize]
      · rw [Machine.setFocus, task_modifyTask hsize]
        exact hlook huse
    next => exact hstepping

theorem Goes.startFetch (hsize : m.tasks.size = 1) {use : FetchUse}
    (hlook : use = .lookup → (m.task 0).Consults) (registry : RegistryId) (factory : FactoryId)
    (request : Request) : Goes m (m.startFetch 0 registry factory request use) := by
  have htaken := Goes.takeFetch (m := { m with world := m.world.freshSpan.2 }) hsize
    (f := { registry, factory, request, use, phase := .waiting 0, build := none }) hlook
  unfold Machine.startFetch
  dsimp only
  exact (htaken _).start_congr rfl rfl

/-- The innermost call has its mediator looked up, or ends with a faulty configuration. -/
theorem Goes.consult (hsize : m.tasks.size = 1) (hconsults : (m.task 0).Consults) (path : Path)
    (registry : RegistryId) (factory : FactoryId) (config : Descriptor) (business : Handle) :
    Goes m (m.consult 0 path registry factory config business) := by
  unfold Machine.consult
  split
  next error hresolve =>
    obtain ⟨a, named, e, outer, hbodies, ha, he⟩ := hconsults
    exact .enterPhase hsize hbodies ha (.inr ⟨he, id⟩) path business
  next identity hresolve =>
    exact .startFetch hsize (fun _ => hconsults) registry factory _

end Machine

end Scenario

end ShadowTraffic
