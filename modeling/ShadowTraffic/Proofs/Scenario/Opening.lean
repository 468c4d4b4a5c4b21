import ShadowTraffic.Proofs.Scenario.Leaving

/-! # Opening bodies

The steps of a call tree are intercepted calls, blocks in a logical call of their own or in a
snapshot of the one around, and panics with the blocks that stop them. When a small step begins one
of these, the task goes on without it, or leaves some of its bodies, or opens one more.
-/

namespace ShadowTraffic.Scenario

/-! ## Call trees -/

/-- What a step opens. -/
inductive Opening where
  /-- A body in the same logical call. -/
  | body
  /-- A logical call of its own. -/
  | fresh
  /-- A snapshot of the logical call around. -/
  | snapshot
  /-- An intercepted call. -/
  | call (boundary : String) (policy : Policy)
deriving DecidableEq

def Step.opening (w : World) : Step → Opening
  | .block (.withContext _) _ => .fresh
  | .block .carry _ => .snapshot
  | .intercept s _ =>
    match ((Machine.callArguments s).run w).1 with
    | .ok x => .call x.boundary x.policy
    | .error _ => .body
  | _ => .body

/-- A step of a call tree. -/
inductive Step.Mediating : Step → Prop
  | call {s : InterceptStep} {body : List Step} (h : ∀ t ∈ body, Mediating t) :
    Mediating (.intercept s body)
  | fresh {context : Option (Arg String)} {body : List Step} (h : ∀ t ∈ body, Mediating t) :
    Mediating (.block (.withContext context) body)
  | snapshot {body : List Step} (h : ∀ t ∈ body, Mediating t) : Mediating (.block .carry body)
  | catching {body : List Step} (h : ∀ t ∈ body, Mediating t) :
    Mediating (.block .catching body)
  | panics {message : String} : Mediating (.task (.panics message))

/-! ## What is opened -/

/-- An activation that is opened at a place of a world, and the world after that. -/
inductive Opened (w : World) (here : Place) (a : Activation) (w' : World) : Opening → Prop
  | body {path : Path} (hending : a.ending = .caught path) (hframe : a.frame = none)
    (hguard : w'.guard = w.guard) : Opened w here a w' .body
  | fresh {path : Path} (t : TrafficContext) (hending : a.ending = .done path)
    (hframe : a.frame = some (w.newFrame t).1) (hguard : w'.guard = (w.newFrame t).2.guard) :
    Opened w here a w' .fresh
  | snapshot {path : Path} (hending : a.ending = .done path)
    (hframe : a.frame = some (w.capture here).1) (hguard : w'.guard = (w.capture here).2.guard) :
    Opened w here a w' .snapshot
  | call {path : Path} {e : Envelope} (x : CallArguments) (resource : Option String)
    (hending : a.ending = .call path e)
    (hticket : e.ticket = some ((w.intercept here x resource).1.stack,
      (w.intercept here x resource).1.ticket))
    (hphase : e.phase.Reentrant ↔ (w.intercept here x resource).1.ticket.entered = false)
    (hframe : a.frame = some (w.intercept here x resource).1.frame)
    (hguard : w'.guard = (w.intercept here x resource).2.guard) :
    Opened w here a w' (.call x.boundary x.policy)

/-- What was opened can be told when the task has gone on. -/
theorem Opened.continues {w w' w'' : World} {here : Place} {a a' : Activation} {o : Opening}
    (h : Opened w here a w' o) (ha : a.Continues a') (hw : w''.guard = w'.guard) :
    Opened w here a' w'' o := by
  cases h with
  | body hending hframe hguard =>
    exact .body (ha.ending_of hending rfl) (ha.frame.trans hframe) (hw.trans hguard)
  | fresh t hending hframe hguard =>
    exact .fresh t (ha.ending_of hending rfl) (ha.frame.trans hframe) (hw.trans hguard)
  | snapshot hending hframe hguard =>
    exact .snapshot (ha.ending_of hending rfl) (ha.frame.trans hframe) (hw.trans hguard)
  | call x resource hending hticket hphase hframe hguard =>
    rcases ha.ending with hsame | ⟨path, e, phase, hcall, he, hdecided, hdiffers⟩
    · exact .call x resource (hsame.trans hending) hticket hphase (ha.frame.trans hframe)
        (hw.trans hguard)
    · rw [hending] at hcall
      cases hcall
      have hentered : ¬ (w.intercept here x resource).1.ticket.entered = false := by
        rw [← hphase, he]
        exact id
      exact .call x resource hdiffers hticket (iff_of_false hdecided hentered)
        (ha.frame.trans hframe) (hw.trans hguard)

namespace Machine

variable {m m' m'' : Machine} {o : Opening}

/-- The only task opens one more body. -/
structure Opens (m m' : Machine) (o : Opening) : Prop where
  size : m'.tasks.size = m.tasks.size
  looks : (m'.task 0).Looks
  bodies : ∃ a outer, (m'.task 0).activations = a :: outer ∧
    List.Forall₂ Activation.Continues (m.task 0).activations outer ∧
    Opened m.world (m.place 0) a m'.world o ∧ ∀ s ∈ a.rest, s.Mediating

theorem Opens.goes (h : Opens m m' o) (h' : Goes m' m'') : Opens m m'' o where
  size := h'.size.trans h.size
  looks := h'.looks
  bodies := by
    obtain ⟨a, outer, hbodies, houter, hopened, hrest⟩ := h.bodies
    have hgoes := h'.bodies
    rw [hbodies] at hgoes
    generalize (m''.task 0).activations = bodies at hgoes
    cases hgoes with
    | cons ha houter' =>
      exact ⟨_, _, rfl, Activation.continue_trans houter houter',
        hopened.continues ha h'.guard, fun s hs => hrest s (ha.rest hs)⟩

theorem Goes.opens (h : Goes m m') (hworld : m'.world = m.world)
    (hplace : m'.place 0 = m.place 0) (h' : Opens m' m'' o) : Opens m m'' o where
  size := h'.size.trans h.size
  looks := h'.looks
  bodies := by
    obtain ⟨a, outer, hbodies, houter, hopened, hrest⟩ := h'.bodies
    rw [hworld, hplace] at hopened
    exact ⟨a, outer, hbodies, Activation.continue_trans h.bodies houter, hopened, hrest⟩

theorem task_push (hsize : m.tasks.size = 1) (a : Activation) :
    (m.push 0 a).task 0 =
      { m.task 0 with activations := a :: (m.task 0).activations, focus := .stepping } :=
  task_modifyTask hsize _

theorem Opens.push (hsize : m.tasks.size = 1) {a : Activation} {w : World}
    (hopened : Opened m.world (m.place 0) a w o) (hrest : ∀ s ∈ a.rest, s.Mediating) :
    Opens m (Machine.push { m with world := w } 0 a) o where
  size := size_modifyTask _
  looks := by
    rw [task_push (m := { m with world := w }) hsize]
    exact .of_stepping rfl
  bodies := by
    rw [task_push (m := { m with world := w }) hsize]
    exact ⟨a, _, rfl, Activation.continue_refl _, hopened, hrest⟩

/-! ## Beginning a step -/

/-- An intercepted call is refused, or entered into its first phase or the look-up before that. -/
theorem interceptStep_cases (hsize : m.tasks.size = 1) (hlooks : (m.task 0).Looks) (path : Path)
    (s : InterceptStep) {body : List Step} (hbody : ∀ t ∈ body, t.Mediating) :
    Goes m (m.interceptStep 0 path s body) ∨
      Opens m (m.interceptStep 0 path s body) (Step.opening m.world (.intercept s body)) := by
  unfold interceptStep
  rcases attempt_cases (reads_callArguments s) m path _ with ⟨r, hrefused⟩ | ⟨x, hx, hgoes⟩
  · rw [hrefused]
    exact .inl ((Goes.refl hlooks).end_congr (guard_answer ..) rfl)
  · rw [hgoes, Step.opening, hx]
    right
    dsimp only
    generalize hpushed : Machine.push _ 0 _ = pushed
    have hopens : Opens m pushed (.call x.boundary x.policy) := by
      rw [← hpushed]
      exact .push hsize (.call x s.resource rfl rfl (World.reentrant_intercept ..) rfl rfl) hbody
    have hsize' : pushed.tasks.size = 1 := hopens.size.trans hsize
    have hinner : ∃ a path e, (pushed.task 0).activations = a :: (m.task 0).activations ∧
        a.ending = .call path e ∧
        e.phase = (m.world.intercept (m.place 0) x s.resource).1.phase := by
      have hpush := task_push
        (m := { m with world := (m.world.intercept (m.place 0) x s.resource).2 }) hsize
      rw [← hpushed, hpush]
      exact ⟨_, _, _, rfl, rfl, rfl⟩
    obtain ⟨a, named, e, hbodies, ha, he⟩ := hinner
    split
    next hphase =>
      refine hopens.goes (.consult hsize' ?_ ..)
      exact ⟨a, named, e, _, hbodies, ha, he.trans hphase⟩
    next hphase => exact hopens.goes (.enterPhase hsize' hbodies ha (.inl he.symm) ..)

theorem captured_run (here : Place) (w : World) :
    (captured here).run w = (.ok (w.capture here).1, (w.capture here).2) := rfl

/-- A step of a call tree begins. -/
theorem beginStep_cases (hsize : m.tasks.size = 1) (hlooks : (m.task 0).Looks)
    (hroot : (m.task 0).Rooted) {s : Step} (hs : s.Mediating) (path : Path) :
    Goes m (m.beginStep 0 path s) ∨ (∃ left, Leaves m (m.beginStep 0 path s) left) ∨
      Opens m (m.beginStep 0 path s) (s.opening m.world) := by
  cases hs with
  | @call s body hbody =>
    rcases interceptStep_cases hsize hlooks path s hbody with hgoes | hopens
    · exact .inl hgoes
    · exact .inr (.inr hopens)
  | @fresh context body hbody =>
    rw [beginStep, blockStep]
    rcases attempt_cases (reads_contextOr context) m path _ with ⟨r, hrefused⟩ | ⟨t, -, hopens⟩
    · rw [hrefused]
      exact .inl ((Goes.refl hlooks).end_congr (guard_answer ..) rfl)
    · rw [hopens]
      exact .inr (.inr (.push hsize (.fresh t rfl rfl rfl) hbody))
  | @snapshot body hbody =>
    rw [beginStep, blockStep, attempt, captured_run]
    exact .inr (.inr (.push hsize (.snapshot rfl rfl rfl) hbody))
  | @catching body hbody =>
    exact .inr (.inr (Opens.push (w := m.world) hsize (.body rfl rfl rfl) hbody))
  | @panics message => exact .inr (.inl (Leaves.panics hsize hroot message))

/-! ## Small steps -/

/-- What the task's next step opens, if it opens something. -/
def opening (m : Machine) : Opening :=
  match (m.task 0).activations with
  | { rest := s :: _, .. } :: _ => s.opening m.world
  | _ => .body

/-- A task that runs a call tree, alone in its machine. -/
structure Alone (m : Machine) : Prop where
  size : m.tasks.size = 1
  looks : (m.task 0).Looks
  rooted : (m.task 0).Rooted
  mediating : ∀ a ∈ (m.task 0).activations, ∀ s ∈ a.rest, s.Mediating

/-- What a small step comes to. -/
def Moves (m m' : Machine) : Prop :=
  Goes m m' ∨ (∃ left, Leaves m m' left) ∨
    (m.task 0).activations ≠ [] ∧ Opens m m' m.opening

/-- The next step of the innermost body is taken off it. -/
theorem Alone.take (h : m.Alone) (hfocus : (m.task 0).focus = .stepping) {a : Activation}
    {outer : List Activation} {s : Step} {more : List Step}
    (hbodies : (m.task 0).activations = a :: outer) (hrest : a.rest = s :: more)
    (hm' : m' = m.modifyTask 0 fun t =>
      { t with activations := { a with next := a.next + 1, rest := more } :: outer }) :
    Goes m m' ∧ (m'.task 0).Rooted ∧ m'.place 0 = m.place 0 := by
  have htask := task_modifyTask h.size fun (t : Task) =>
    { t with activations := { a with next := a.next + 1, rest := more } :: outer }
  rw [← hm'] at htask
  refine ⟨⟨by rw [hm']; rfl, by rw [hm']; exact size_modifyTask _, ?_, ?_⟩, ?_, ?_⟩
  · rw [htask, hbodies]
    refine .cons ⟨rfl, ?_, .inl rfl⟩ (Activation.continue_refl outer)
    rw [hrest]
    exact List.subset_cons_self ..
  · rw [htask]
    exact .of_stepping hfocus
  · intro inner b bodies hsplit hb
    rw [htask] at hsplit
    cases inner with
    | nil =>
      cases hsplit
      exact h.rooted [] a outer hbodies hb
    | cons c inner =>
      cases hsplit
      exact h.rooted (a :: inner) b bodies (by rw [hbodies]; rfl) hb
  · rw [place, place, htask, hbodies]
    rfl

theorem Alone.stepOn (h : m.Alone) (hfocus : (m.task 0).focus = .stepping) :
    Moves m (m.stepOn 0) := by
  unfold Machine.stepOn
  cases hbodies : (m.task 0).activations with
  | nil =>
    refine .inr (.inl ⟨0, ?_⟩)
    exact .finish h.size rfl rfl (by rw [hbodies]; rfl) .done
  | cons a outer =>
    have hleft := fun bodies => task_modifyTask (m := m) h.size
      fun t => { t with activations := bodies }
    cases hrest : a.rest with
    | nil =>
      dsimp only
      rw [hrest]
      refine .inr (.inl ⟨1, .endBody h.size h.rooted hbodies rfl (size_modifyTask _) ?_ ?_⟩)
      · rw [hleft]
      · rw [hleft]
        exact .of_stepping hfocus
    | cons s more =>
      dsimp only
      rw [hrest]
      dsimp only
      generalize htaken : m.modifyTask 0 (fun t =>
        { t with activations := { a with next := a.next + 1, rest := more } :: outer }) = taken
      obtain ⟨hgoes, hroot, hplace⟩ := h.take hfocus hbodies hrest htaken.symm
      have hworld : taken.world = m.world := by rw [← htaken]; rfl
      have hs : s.Mediating := h.mediating a (by rw [hbodies]; simp) s (by rw [hrest]; simp)
      have hopening : m.opening = s.opening taken.world := by
        rw [opening, hbodies, hworld]
        obtain ⟨ending, path, next, rest, frame, span⟩ := a
        cases hrest
        rfl
      rcases beginStep_cases (hgoes.size.trans h.size) hgoes.looks hroot hs
        (a.path ++ toString a.next) with hbegun | ⟨left, hbegun⟩ | hbegun
      · exact .inl (hgoes.trans hbegun)
      · exact .inr (.inl ⟨left, hgoes.leaves hbegun⟩)
      · rw [← hopening] at hbegun
        exact .inr (.inr ⟨by rw [hbodies]; simp, hgoes.opens hworld hplace hbegun⟩)

/-- One turn of a task; but for the only one there is none that could do anything. -/
theorem Alone.advance (h : m.Alone) (id : TaskId) : Moves m (m.advance id) := by
  have hsuspended : Moves m m.suspend := .inl ((Goes.refl h.looks).end_congr rfl rfl)
  by_cases hid : id = 0
  · subst hid
    have hstepping : Goes m (m.setFocus 0 .stepping) :=
      .setFocus h.size fun f hf => by cases hf
    unfold Machine.advance
    dsimp only
    split
    · exact hsuspended
    split
    · exact .inr (.inl ⟨_, .cancel h.size⟩)
    split
    next hfocus => exact h.stepOn hfocus
    next path gate hfocus =>
      split
      · exact .inl (hstepping.end_congr (guard_answer ..) rfl)
      · exact hsuspended
    next path other hfocus =>
      split
      · exact .inl (hstepping.end_congr (guard_answer ..) rfl)
      · exact hsuspended
    next path hfocus => exact .inl (hstepping.end_congr (guard_answer ..) rfl)
    next f hfocus =>
      rcases fetchOn_cases h.size (h.looks f hfocus) h.rooted with hgoes | hleaves
      · exact .inl hgoes
      · exact .inr (.inl hleaves)
  · have hnobody : (m.task id).ended.isSome = true := by
      have hnone : m.tasks[id]? = none := by
        refine Array.getElem?_eq_none ?_
        rw [h.size]
        exact Nat.pos_of_ne_zero hid
      rw [task, hnone]
      rfl
    unfold Machine.advance
    dsimp only
    rw [if_pos hnobody]
    exact hsuspended

theorem Alone.step (h : m.Alone) (hstep : m.step? = some m') : Moves m m' := by
  unfold step? at hstep
  split at hstep
  · cases hstep
  split at hstep
  next id hcurrent =>
    cases hstep
    exact h.advance id
  next hcurrent =>
    unfold next? at hstep
    split at hstep
    · cases hstep
      exact .inl ((Goes.refl h.looks).end_congr rfl rfl)
    · cases hstep
      exact .inl ((Goes.refl h.looks).end_congr rfl rfl)
    · cases hstep

end Machine

end ShadowTraffic.Scenario
