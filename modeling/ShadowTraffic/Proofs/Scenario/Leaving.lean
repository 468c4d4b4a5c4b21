import ShadowTraffic.Proofs.Scenario.Going

/-! # Leaving the bodies of a task

A body is left when it has come to its end, or with those inside it when there is a panic or the
task is cancelled. Either way the tickets of the calls that are left are dropped, innermost first.
-/

namespace ShadowTraffic

namespace Scenario

/-- The body of the task itself is the outermost one. -/
def Task.Rooted (t : Task) : Prop :=
  ∀ inner a outer, t.activations = inner ++ a :: outer → a.ending = .task → outer = []

namespace Machine

variable {m m' m'' : Machine}

/-! ## Leaving -/

/-- What some bodies hold is undone, from the innermost on. -/
def undo (bodies : List Activation) (w : World) : World :=
  bodies.foldl (fun w (a : Activation) => a.ending.cleanUp w) w

/-- The only task leaves some of its innermost bodies, and what these hold is undone. -/
structure Leaves (m m' : Machine) (left : Nat) : Prop where
  guard : m'.world.guard = (undo ((m.task 0).activations.take left) m.world).guard
  size : m'.tasks.size = m.tasks.size
  bodies : List.Forall₂ Activation.Continues ((m.task 0).activations.drop left)
    (m'.task 0).activations
  looks : (m'.task 0).Looks

theorem guard_undo_congr {w w' : World} (h : w'.guard = w.guard) (bodies : List Activation) :
    (undo bodies w').guard = (undo bodies w).guard := by
  induction bodies generalizing w w' with
  | nil => exact h
  | cons a bodies ih => exact ih (World.guard_cleanUp_congr h a.ending)

theorem undo_concat (bodies : List Activation) (a : Activation) (w : World) :
    undo (bodies ++ [a]) w = a.ending.cleanUp (undo bodies w) := by
  simp [undo]

theorem world_finish (m : Machine) (id : TaskId) (e : TaskEnd) :
    (m.finish id e).world = m.world :=
  world_wakeAll ..

theorem size_finish (m : Machine) (e : TaskEnd) :
    (m.finish 0 e).tasks.size = m.tasks.size := by
  unfold finish
  rw [tasks_wakeAll]
  exact size_modifyTask _

theorem task_finish (hsize : m.tasks.size = 1) (e : TaskEnd) :
    (m.finish 0 e).task 0 = { activations := [], ended := some e } := by
  unfold finish
  dsimp only
  rw [task_congr (tasks_wakeAll ..)]
  exact task_modifyTask hsize _

theorem abandonFocus_same (m : Machine) (id : TaskId) :
    (m.abandonFocus id).world.guard = m.world.guard ∧ (m.abandonFocus id).tasks = m.tasks := by
  unfold abandonFocus
  split
  · simp
  · exact ⟨rfl, rfl⟩

theorem takeWhile_split {α : Type} (p : α → Bool) (list : List α) :
    list.takeWhile p = list ∨
      ∃ a outer, list = list.takeWhile p ++ a :: outer ∧ p a = false := by
  have happend : list.takeWhile p ++ list.dropWhile p = list := List.takeWhile_append_dropWhile
  have hhead := List.head?_dropWhile_not p list
  cases hrest : list.dropWhile p with
  | nil =>
    rw [hrest, List.append_nil] at happend
    exact .inl happend
  | cons a outer =>
    rw [hrest] at happend hhead
    exact .inr ⟨a, outer, happend.symm, hhead⟩

variable {left : Nat}

theorem Leaves.start_congr (h : Leaves m' m'' left) (hguard : m'.world.guard = m.world.guard)
    (htasks : m'.tasks = m.tasks) : Leaves m m'' left where
  guard := by
    rw [h.guard, task_congr htasks]
    exact guard_undo_congr hguard _
  size := by rw [h.size, htasks]
  bodies := by
    rw [← task_congr htasks]
    exact h.bodies
  looks := h.looks

theorem Leaves.end_congr (h : Leaves m m' left) (hguard : m''.world.guard = m'.world.guard)
    (htasks : m''.tasks = m'.tasks) : Leaves m m'' left where
  guard := hguard.trans h.guard
  size := by rw [htasks, h.size]
  bodies := by
    rw [task_congr htasks]
    exact h.bodies
  looks := by
    rw [task_congr htasks]
    exact h.looks

/-- What a body holds stays the same while the task goes on. -/
theorem cleanUp_continues {a a' : Activation} (h : a.Continues a') (w : World) :
    a'.ending.cleanUp w = a.ending.cleanUp w := by
  rcases h.ending with hsame | ⟨path, e, phase, ha, -, -, ha'⟩
  · rw [hsame]
  · rw [ha, ha']
    rfl

theorem undo_continues {bodies bodies' : List Activation}
    (h : List.Forall₂ Activation.Continues bodies bodies') (w : World) :
    undo bodies' w = undo bodies w := by
  induction h generalizing w with
  | nil => rfl
  | @cons a a' bodies bodies' head tail ih =>
    show undo bodies' (a'.ending.cleanUp w) = undo bodies (a.ending.cleanUp w)
    rw [cleanUp_continues head, ih]

theorem Goes.leaves (h : Goes m m') (h' : Leaves m' m'' left) : Leaves m m'' left where
  guard := by
    rw [h'.guard, undo_continues (List.forall₂_take left h.bodies)]
    exact guard_undo_congr h.guard _
  size := h'.size.trans h.size
  bodies := Activation.continue_trans (List.forall₂_drop left h.bodies) h'.bodies
  looks := h'.looks

/-- The task ends where what its bodies hold is undone and none of them is left. -/
theorem Leaves.finish (hsize : m'.tasks.size = 1) (hsame : m'.tasks.size = m.tasks.size)
    (hguard : m'.world.guard = (undo ((m.task 0).activations.take left) m.world).guard)
    (hleft : (m.task 0).activations.drop left = []) (e : TaskEnd) :
    Leaves m (m'.finish 0 e) left where
  guard := by rw [world_finish, hguard]
  size := by rw [size_finish, hsame]
  bodies := by
    rw [task_finish hsize, hleft]
    exact .nil
  looks := by
    rw [task_finish hsize]
    exact .of_stepping rfl

/-- The bodies up to a certain one are left, and that one too. -/
theorem Leaves.of_split {inner outer : List Activation} {a : Activation}
    (hbodies : (m.task 0).activations = inner ++ a :: outer)
    (hguard : m'.world.guard = (a.ending.cleanUp (undo inner m.world)).guard)
    (hsize : m'.tasks.size = m.tasks.size) (houter : (m'.task 0).activations = outer)
    (hlooks : (m'.task 0).Looks) : Leaves m m' (inner.length + 1) where
  guard := by
    rw [hguard, hbodies, ← undo_concat]
    simp [List.take_append, List.take_of_length_le]
  size := hsize
  bodies := by
    have hdrop : (inner ++ a :: outer).drop (inner.length + 1) = outer := by
      simp [List.drop_append]
    rw [houter, hbodies, hdrop]
    exact Activation.continue_refl outer
  looks := hlooks

/-- What stops a panic holds nothing itself. -/
theorem cleanUp_of_stopsPanic {e : Ending} (h : e.stopsPanic = true) (w : World) :
    e.cleanUp w = w := by
  cases e with
  | task => rfl
  | caught path => rfl
  | thread path => rfl
  | done path => cases h
  | guarded path stack t => cases h
  | call path e => cases h

/-- A panic leaves the bodies up to the first one that stops it, and that one too. -/
theorem Leaves.panics (hsize : m.tasks.size = 1) (hroot : (m.task 0).Rooted) (message : String) :
    ∃ left, Leaves m (m.panics 0 message) left := by
  obtain ⟨hguard, htasks⟩ := abandonFocus_same m 0
  unfold Machine.panics
  generalize m.abandonFocus 0 = stopped at hguard htasks ⊢
  rw [← htasks] at hsize
  rw [← task_congr htasks] at hroot
  suffices h : ∃ left, Leaves stopped _ left by
    obtain ⟨left, hleaves⟩ := h
    exact ⟨left, hleaves.start_congr hguard htasks⟩
  dsimp only
  generalize hbodies : (stopped.task 0).activations = bodies
  have hsplit := takeWhile_split (fun (a : Activation) => !a.ending.stopsPanic) bodies
  generalize bodies.takeWhile (fun (a : Activation) => !a.ending.stopsPanic) = inner at hsplit ⊢
  rcases hsplit with rfl | ⟨a, outer, rfl, hstops⟩
  · rw [List.drop_length]
    refine ⟨inner.length, ?_⟩
    apply Leaves.finish
    · exact hsize
    · rfl
    · rw [hbodies, List.take_length]
      rfl
    · rw [hbodies, List.drop_length]
  · rw [List.drop_left]
    have hfold : inner.foldl (fun w (a : Activation) => a.ending.cleanUp w) stopped.world =
      undo inner stopped.world := rfl
    dsimp only
    rw [hfold]
    generalize hafter : Machine.modifyTask { stopped with world := undo inner stopped.world } 0
      (fun t => { t with activations := outer, focus := .stepping }) = after
    have htask : (after.task 0).activations = outer ∧ (after.task 0).focus = .stepping := by
      subst hafter
      rw [task_modifyTask (m := { stopped with world := undo inner stopped.world }) hsize]
      exact ⟨rfl, rfl⟩
    have hsame : after.tasks.size = stopped.tasks.size := by
      subst hafter
      exact size_modifyTask _
    have hleaves : Leaves stopped after (inner.length + 1) := by
      refine .of_split hbodies ?_ hsame htask.1 (.of_stepping htask.2)
      rw [cleanUp_of_stopsPanic (by simpa using hstops), ← hafter]
      rfl
    refine ⟨inner.length + 1, ?_⟩
    cases hending : a.ending with
    | caught path => exact hleaves.end_congr (guard_answer ..) rfl
    | thread path => exact hleaves.end_congr (guard_answer ..) rfl
    | task =>
      have hnone : outer = [] := hroot inner a outer hbodies hending
      refine .finish (hsame.trans hsize) hsame hleaves.guard ?_ _
      rw [hbodies, hnone]
      simp
    | done path => rw [hending] at hstops; cases hstops
    | guarded path stack t => rw [hending] at hstops; cases hstops
    | call path e => rw [hending] at hstops; cases hstops

/-- A cancelled task leaves all its bodies. -/
theorem Leaves.cancel (hsize : m.tasks.size = 1) :
    Leaves m (m.cancel 0) (m.task 0).activations.length := by
  obtain ⟨hguard, htasks⟩ := abandonFocus_same m 0
  unfold Machine.cancel
  generalize m.abandonFocus 0 = stopped at hguard htasks ⊢
  rw [← htasks] at hsize
  rw [← task_congr htasks]
  refine Leaves.start_congr ?_ hguard htasks
  apply Leaves.finish
  · exact hsize
  · rfl
  · rw [List.take_length]
    rfl
  · rw [List.drop_length]

/-! ## Builds -/

section

variable {f : Fetching} (hsize : m.tasks.size = 1)
  (hlook : f.use = .lookup → (m.task 0).Consults)

include hsize hlook

theorem Goes.buildEnds (slot : SlotId) (span : SpanId) (p : Provision) :
    Goes m (m.buildEnds 0 f slot span p) := by
  have htaken := Goes.takeFetch (m := { m with world := m.world.freshSpan.2 }) hsize hlook
  unfold Machine.buildEnds
  dsimp only
  exact (htaken _).start_congr rfl rfl

/-- A build lets its task go on, or panics. -/
theorem actOn_cases (hroot : (m.task 0).Rooted) (slot : SlotId) (span : SpanId) (factory : String)
    (number : Nat) (outcome : BuildOutcome) :
    Goes m (m.actOn 0 f slot span factory number outcome) ∨
      ∃ left, Leaves m (m.actOn 0 f slot span factory number outcome) left := by
  cases outcome with
  | fresh closeFails =>
    unfold actOn
    dsimp only
    generalize hw : m.world.setHandle _ _ = w
    have hguard : w.guard = m.world.guard := by
      rw [← hw]
      exact World.guard_setHandle ..
    have hends := Goes.buildEnds (m := { m with world := w }) hsize hlook slot span
    exact .inl ((hends _).start_congr hguard rfl)
  | shared h => exact .inl (.buildEnds hsize hlook ..)
  | absent => exact .inl (.buildEnds hsize hlook ..)
  | failed e => exact .inl (.buildEnds hsize hlook ..)
  | panics message => exact .inr (Leaves.panics hsize hroot message)

omit hsize hlook in
theorem Goes.queueAt (hlooks : (m.task 0).Looks) (gate : String) :
    Goes m (m.queueAt 0 gate) := by
  unfold Machine.queueAt
  dsimp only
  split
  · exact .refl hlooks
  · exact (Goes.refl hlooks).end_congr rfl rfl

theorem build_cases (hroot : (m.task 0).Rooted) (slot : SlotId) (span : SpanId) :
    Goes m (m.build 0 f slot span) ∨ ∃ left, Leaves m (m.build 0 f slot span) left := by
  unfold build
  split
  next => exact .inl (.buildEnds hsize hlook ..)
  next name gate outcomes builds hfactory =>
    split
    next hbuild =>
      left
      dsimp only
      generalize hbegun : Machine.emit _ _ _ = begun
      have hguard : begun.world.guard = m.world.guard := by
        rw [← hbegun]
        exact guard_emit ..
      have htasks : begun.tasks = m.tasks := by
        rw [← hbegun]
        rfl
      rw [← htasks] at hsize
      rw [← task_congr htasks] at hlook
      have hfocus : Goes begun (begun.setFocus 0 (.fetching { f with build := some builds })) := by
        refine .setFocus hsize ?_
        rintro g ⟨⟩ hg
        exact hlook hg
      refine Goes.start_congr ?_ hguard htasks
      split
      · exact hfocus.trans (.queueAt hfocus.looks _)
      · exact hfocus
    next number hbuild => exact actOn_cases hsize hlook hroot ..

theorem fetchOn_cases (hroot : (m.task 0).Rooted) :
    Goes m (m.fetchOn 0 f) ∨ ∃ left, Leaves m (m.fetchOn 0 f) left := by
  unfold fetchOn
  split
  next slot span hphase => exact build_cases hsize hlook hroot slot span
  next slot hphase =>
    have htaken := Goes.takeFetch (m := { m with world := m.world.freshSpan.2 }) hsize hlook
    dsimp only
    exact .inl ((htaken _).start_congr rfl rfl)
  next slot mediator hphase =>
    have htaken := Goes.takeFetch
      (m := { m with world := (m.world.closeHandle mediator.shadow).2.freshSpan.2 }) hsize hlook
    dsimp only
    exact .inl ((htaken _).start_congr (World.guard_closeHandle ..) rfl)

end

/-! ## Ends of bodies -/

theorem guard_callRuns (w : World) (h : Handle) (script : CallScript) :
    (callRuns w h script).2.guard = w.guard := by
  unfold callRuns
  split
  · rfl
  · exact World.guard_write ..

theorem callEnds_same (m : Machine) (path : Path) (e : Envelope) :
    (m.callEnds path e).world.guard = ((Ending.call path e).cleanUp m.world).guard ∧
      (m.callEnds path e).tasks = m.tasks := by
  unfold callEnds
  cases e.phase with
  | consulting => exact ⟨guard_answer .., rfl⟩
  | ended result => exact ⟨guard_answer .., rfl⟩
  | calling route target mediator =>
    refine ⟨(guard_answer ..).trans (World.guard_cleanUp_congr ?_ _), rfl⟩
    exact guard_callRuns ..

/-- A body that has come to its end is left. -/
theorem Leaves.endBody (hsize : m.tasks.size = 1) (hroot : (m.task 0).Rooted) {a : Activation}
    {outer : List Activation} (hbodies : (m.task 0).activations = a :: outer)
    (hguard : m'.world.guard = m.world.guard) (hsame : m'.tasks.size = m.tasks.size)
    (houter : (m'.task 0).activations = outer) (hlooks : (m'.task 0).Looks) :
    Leaves m (m'.endBody 0 a.ending) 1 := by
  have hsplit : (m.task 0).activations = [] ++ a :: outer := hbodies
  -- apart from the end of the task itself, only what the body holds is undone
  have hends {m'' : Machine} (hguard'' : m''.world.guard = (a.ending.cleanUp m'.world).guard)
      (htasks : m''.tasks = m'.tasks) : Leaves m m'' 1 := by
    refine .of_split hsplit ?_ (by rw [htasks, hsame]) ?_ ?_
    · rw [hguard'']
      exact World.guard_cleanUp_congr hguard _
    · rw [task_congr htasks, houter]
    · rw [task_congr htasks]
      exact hlooks
  cases hending : a.ending with
  | task =>
    refine .finish (hsame.trans hsize) hsame ?_ ?_ .done
    · rw [hguard, hbodies]
      simp [undo, hending, Ending.cleanUp]
    · rw [hbodies, hroot [] a outer hbodies hending]
      rfl
  | done path => exact hends (by rw [hending]; exact guard_answer ..) rfl
  | caught path => exact hends (by rw [hending]; exact guard_answer ..) rfl
  | thread path => exact hends (by rw [hending]; exact guard_answer ..) rfl
  | guarded path stack t => exact hends (by rw [hending]; exact guard_answer ..) rfl
  | call path e =>
    obtain ⟨hguard'', htasks⟩ := callEnds_same m' path e
    exact hends (by rw [hending]; exact hguard'') htasks

end Machine

end Scenario

end ShadowTraffic
