import ShadowTraffic.Proofs.Scenario.FrameEffect

/-! # Steps and the frames they touch

Every step that is begun has the effect on frames and bodies that was said of it.
-/

namespace ShadowTraffic.Scenario.Machine

variable {m m' : Machine} {id : TaskId} {e : FrameEffect} {w : World}

/-! ## Steps whose arguments touch no frame -/

open Act

/-- Such a step is refused, or goes on with its arguments in a world with the same frames. -/
theorem attempt_spares {α : Type} {act : Act α} (h : Spares act) (m : Machine) (path : Path)
    (go : α → Machine → Machine) :
    Same m (m.attempt path act go) ∨
      ∃ a w, w.framing = m.world.framing ∧
        m.attempt path act go = go a { m with world := w } := by
  have hframing := h.framing m.world
  unfold attempt
  generalize act.run m.world = result at hframing ⊢
  obtain ⟨x, w⟩ := result
  cases x with
  | error r => exact .inl ((Same.of_world m hframing).trans (same_answer _ path _))
  | ok a => exact .inr ⟨a, w, hframing, rfl⟩

theorem same_attempt {α : Type} {act : Act α} (h : Spares act) (path : Path)
    {go : α → Machine → Machine}
    (hgo : ∀ a w, w.framing = m.world.framing →
      Same { m with world := w } (go a { m with world := w })) :
    Same m (m.attempt path act go) := by
  rcases attempt_spares h m path go with hrefused | ⟨a, w, hw, hattempt⟩
  · exact hrefused
  · rw [hattempt]
    exact (Same.of_world m hw).trans (hgo a w hw)

/-- The world changes, and that is all that a step does. -/
theorem turned_answer (hworld : e.Changes m.world w) (henters : e.enters = none)
    (hspawns : e.spawns = none) (id : TaskId) (path : Path) (reply : Reply) :
    Turned m ({ m with world := w }.answer path reply) (some id) e :=
  Unwinds.turned (w := w) ((same_answer _ path reply).unwinds id) hworld henters hspawns

theorem turned_clear (m : Machine) (id : TaskId) (path : Path) :
    Turned m (m.beginStep id path (.command (.frame .clear))) (some id)
      (Step.frameEffect m.world (m.place id).frame (.command (.frame .clear))) :=
  turned_answer (w := m.world.setCurrent (m.place id) {})
    (.setCurrent m.world (m.place id) (fun _ => {}) (fun _ _ => rfl) rfl) rfl rfl id path _

/-- An update in full: it does nothing outside any frame. -/
theorem run_update (w : World) (here : Place) (change : ContextChange) :
    ((FrameCommand.update change).run here).run w =
      match w.current? here with
      | none => (.ok (.changed false .nothing), w)
      | some t =>
        match (Act.rules none).run w with
        | (.ok r, w) =>
          (.ok (.changed true (change.apply r t).2), w.setCurrent here (change.apply r t).1)
        | (.error r, w) => (.error r, w) := by
  unfold FrameCommand.run
  have hread : Act.world.run w = (.ok w, w) := rfl
  rw [run_bind, hread]
  dsimp only
  cases w.current? here with
  | none => rfl
  | some t =>
    dsimp only
    rw [run_bind]
    generalize (Act.rules none).run w = result
    obtain ⟨x, w'⟩ := result
    cases x <;> rfl

theorem turned_update (m : Machine) (id : TaskId) (path : Path) (change : ContextChange) :
    Turned m (m.beginStep id path (.command (.frame (.update change)))) (some id)
      (Step.frameEffect m.world (m.place id).frame (.command (.frame (.update change)))) := by
  have hrules : ((Act.rules none).run m.world).2 = m.world := reads_rules none m.world
  unfold beginStep attempt
  dsimp only [Command.run]
  rw [run_update]
  unfold Step.frameEffect
  dsimp only
  generalize (Act.rules none).run m.world = result at hrules ⊢
  obtain ⟨x, w⟩ := result
  cases hrules
  cases hcurrent : m.world.current? (m.place id) with
  | none =>
    refine turned_answer (w := m.world) ?_ ?_ ?_ id path _
    · cases x with
      | error r =>
        cases (m.place id).frame <;> exact .of_framing rfl rfl
      | ok r =>
        refine .of_none m.world hcurrent (fun t => (change.apply r t).1) ?_
        cases (m.place id).frame <;> rfl
    · cases (m.place id).frame <;> cases x <;> rfl
    · cases (m.place id).frame <;> cases x <;> rfl
  | some t =>
    have hframe : (m.place id).frame.isSome := by
      by_contra hnone
      rw [World.current?, World.frame?, Option.not_isSome_iff_eq_none.mp hnone] at hcurrent
      cases hcurrent
    obtain ⟨f, hf⟩ := Option.isSome_iff_exists.mp hframe
    rw [hf]
    cases x with
    | error r => exact (same_answer m path _).turned id
    | ok r =>
      refine turned_answer (.setCurrent m.world (m.place id) (fun t => (change.apply r t).1)
        (fun old hold => ?_) ?_) rfl rfl id path _
      · rw [hcurrent] at hold
        cases hold
        rfl
      · rw [hf]
        rfl

theorem turned_command (m : Machine) (id : TaskId) (path : Path) (c : Command) :
    Turned m (m.beginStep id path (.command c)) (some id)
      (Step.frameEffect m.world (m.place id).frame (.command c)) := by
  have hspares (h : Spares (c.run (m.place id))) :
      Turned m (m.beginStep id path (.command c)) (some id) {} := by
    unfold beginStep
    exact (same_attempt h path fun reply _ _ => same_answer _ path reply).turned id
  cases c with
  | frame f =>
    cases f with
    | inFrame => exact hspares (spares_world.bind fun _ => spares_pure _)
    | current keptAs =>
      refine hspares (spares_world.bind fun w => ?_)
      dsimp only
      split
      · exact (ContextCommand.spares_keep ..).bind fun _ => spares_pure _
      · exact spares_pure _
    | clear => exact turned_clear ..
    | update change => exact turned_update ..
  | _ => exact hspares (Command.spares_run _ _ (by simp))

/-! ## Blocks -/

/-- A task is made for a body, in a snapshot of the frame around or outside any. -/
theorem turned_spawn (hworld : e.Changes m.world w) (henters : e.enters = none)
    (frame : Option FrameId) (hspawns : e.spawns = some frame) (hid : id < m.tasks.size)
    (path : Path) (steps : List Step) (jobs : Dictionary TaskId) (ready : List TaskId) :
    Turned m ({ m with
      world := w
      tasks := m.tasks.push { activations := [body path .task steps frame] }
      jobs, ready }.answer path .spawned) (some id) e := by
  generalize hspawned : ({ m with
      world := w
      tasks := m.tasks.push { activations := [body path .task steps frame] }
      jobs, ready } : Machine) = spawned
  have htasks : spawned.tasks = m.tasks.push { activations := [body path .task steps frame] } := by
    rw [← hspawned]
  have hnew : spawned.bodies m.tasks.size = [frame] := by
    rw [Machine.bodies, task, htasks, Array.getElem?_push_size]
    rfl
  have hold (j : TaskId) (hj : j ≠ m.tasks.size) : spawned.bodies j = m.bodies j := by
    rw [Machine.bodies, task, htasks, Array.getElem?_push, if_neg hj]
    rfl
  have hsame := same_answer spawned path .spawned
  refine ⟨hworld.framing_congr ?_, ?_, ?_, ?_, ?_⟩
  · rw [hsame.framing, ← hspawned]
  · intro j f _ hf
    rw [henters] at hf
    cases hf
  · intro j hj _
    cases hj
    exact .inr ⟨0, by rw [hsame.bodies, hold id (Nat.ne_of_lt hid), List.drop_zero]⟩
  · rw [hsame.bodies, hnew, hspawns]
    rfl
  · intro j _ hj
    rw [hsame.bodies, hold j hj]

theorem turned_blockStep (hid : id < m.tasks.size) (path : Path) (b : Block) (steps : List Step) :
    Turned m (m.blockStep id path b steps) (some id)
      (Step.frameEffect m.world (m.place id).frame (.block b steps)) := by
  cases b with
  | withContext context =>
    have hreads : ((contextOr context).run m.world).2 = m.world := reads_contextOr context m.world
    unfold blockStep attempt Step.frameEffect
    dsimp only
    generalize (contextOr context).run m.world = result at hreads ⊢
    obtain ⟨x, w⟩ := result
    cases hreads
    cases x with
    | error r => exact (same_answer m path _).turned id
    | ok t => exact .push hid (.newFrame m.world rfl) rfl rfl (.refl _)
  | carry => exact .push hid (.capture m.world (m.place id) rfl) rfl rfl (.refl _)
  | catching => exact .push (w := m.world) hid (.of_framing rfl rfl) rfl rfl (.refl _)
  | guarded stack boundary policy =>
    have harguments := (spares_stack (m.place id) stack).bind fun stack =>
      (spares_arg boundary).bind fun boundary => (spares_arg policy).bind fun policy =>
        spares_pure (stack, boundary, policy)
    unfold blockStep
    dsimp only
    rcases attempt_spares harguments m path _ with
      hrefused | ⟨⟨stack, boundary, policy⟩, w, hw, hattempt⟩
    · exact hrefused.turned id
    · rw [hattempt]
      dsimp only
      have hentered : (w.enter stack boundary policy).2.framing = m.world.framing := hw
      generalize w.enter stack boundary policy = entered at hentered ⊢
      obtain ⟨ticket, w'⟩ := entered
      dsimp only
      split
      · exact .push hid (.of_framing hentered rfl) rfl rfl (.refl _)
      · have hdropped := (World.framing_dropTicket w' stack ticket).trans hentered
        exact turned_answer (.of_framing hdropped rfl) rfl rfl id path _
  | bind name =>
    cases name with
    | error r => exact (same_answer m path _).turned id
    | ok name =>
      exact turned_answer (.keep_callback m.world (m.place id) name (path ++ ".") steps rfl rfl)
        rfl rfl id path _
  | carryLater name =>
    cases name with
    | error r => exact (same_answer m path _).turned id
    | ok name =>
      exact turned_answer (.keep_future m.world (m.place id) name (path ++ ".") steps rfl rfl)
        rfl rfl id path _
  | spawn name carry =>
    cases name with
    | error r => exact (same_answer m path _).turned id
    | ok name =>
      cases carry with
      | true =>
        exact turned_spawn (.capture m.world (m.place id) rfl) rfl _ rfl hid path steps _ _
      | false =>
        exact turned_spawn (w := m.world) (.of_framing rfl rfl) rfl _ rfl hid path steps _ _

/-! ## Other tasks -/

theorem same_modifyOther (m : Machine) (other : TaskId) (id : TaskId) (abort : Bool) :
    Same m (m.modifyTask other fun t =>
      { t with joiners := t.joiners ++ [id], cancelled := t.cancelled || abort }) :=
  .modifyTask m other fun _ => rfl

theorem same_wake (m : Machine) (id : TaskId) : Same m (m.wake id) := by
  obtain ⟨ready, h⟩ := wake_eq m id
  rw [h]
  exact .of_tasks rfl rfl

theorem same_join (m : Machine) (id : TaskId) (path : Path) (other : TaskId) (abort : Bool) :
    Same m (m.join id path other abort) := by
  unfold join
  dsimp only
  refine (same_setFocus m id (.joining path other)).trans ?_
  generalize m.setFocus id _ = joining
  split
  · exact .refl _
  · refine (same_modifyOther joining other id abort).trans ?_
    generalize joining.modifyTask other _ = joined
    split
    · exact (same_wake joined other).trans (.of_tasks rfl rfl)
    · exact .of_tasks rfl rfl

/-- A kept body is taken, and is run in the frame that was captured for it. -/
theorem turned_resume (hid : id < m.tasks.size) (hworld : e.Changes m.world w) (c : Continuation)
    (henters : e.enters = some c.frame) (hspawns : e.spawns = none) (ending : Ending) :
    Turned m ({ m with world := w }.resume id c ending) (some id) e :=
  .push hid hworld henters hspawns (.refl _)

theorem run_known {α : Type} (field : String) (names : World → Dictionary α) (name : String)
    (w : World) :
    (Act.known field names (.ok name)).run w =
      match (names w).get? name with
      | some a => (.ok a, w)
      | none => (.error (.badInput field), w) := by
  show ((match (names w).get? name with
    | some a => pure a
    | none => Act.bad field : Act α)).run w = _
  cases (names w).get? name <;> rfl

theorem turned_taskStep (hid : id < m.tasks.size) (path : Path) (t : TaskStep) :
    Turned m (m.taskStep id path t) (some id)
      (Step.frameEffect m.world (m.place id).frame (.task t)) := by
  cases t with
  | callback name thread =>
    cases name with
    | error r => exact (same_answer m path _).turned id
    | ok name =>
      unfold taskStep attempt Step.frameEffect
      dsimp only
      rw [run_bind, run_known]
      cases hc : m.world.callbacks.get? name with
      | none => exact (same_answer m path _).turned id
      | some c => exact turned_resume hid (.erase_callback m.world name rfl) c rfl rfl _
  | await name =>
    cases name with
    | error r => exact (same_answer m path _).turned id
    | ok name =>
      unfold taskStep attempt Step.frameEffect
      dsimp only
      rw [run_bind, run_known]
      cases hc : m.world.futures.get? name with
      | none => exact (same_answer m path _).turned id
      | some c => exact turned_resume hid (.erase_future m.world name rfl) c rfl rfl _
  | join name abort =>
    unfold taskStep
    refine Same.turned (same_attempt ?_ path ?_) id
    · refine (spares_arg name).bind fun name => ?_
      split
      · exact spares_pure _
      · exact ⟨fun _ => rfl⟩
    · rintro ⟨name, other⟩ w -
      have hforgotten : Same { m with world := w }
        { m with world := w, jobs := m.jobs.erase name } := .of_tasks rfl rfl
      exact hforgotten.trans (same_join _ id path other abort)
  | settle =>
    have hidle : Same (m.setFocus id (.settling path)) (m.taskStep id path .settle) :=
      .of_tasks rfl rfl
    exact ((same_setFocus m id (.settling path)).trans hidle).turned id
  | wait gate =>
    unfold taskStep
    refine Same.turned (same_attempt (spares_arg gate) path fun gate w _ => ?_) id
    exact (same_setFocus _ id (.waiting path gate)).trans (same_queueAt _ id gate)
  | openGate gate =>
    unfold taskStep
    refine Same.turned (same_attempt (spares_arg gate) path fun gate w _ => ?_) id
    have hopened : Same { m with world := w }
      { m with world := w.setGate gate { isOpen := true } } := .of_tasks rfl rfl
    exact (hopened.trans (same_wakeAll _ (w.gate gate).queue)).trans (same_answer _ path .ok)
  | panics message => exact (unwinds_panics m id message).turned_same

/-! ## Calls -/

theorem spares_factoryNamed (name : Arg String) : Spares (factoryNamed name) := spares_known ..

theorem same_fetchStep (m : Machine) (id : TaskId) (path : Path) (s : FetchStep) :
    Same m (m.fetchStep id path s) := by
  unfold fetchStep
  refine same_attempt ?_ path ?_
  · exact (RegistryCommand.spares_named _).bind fun _ => (spares_factoryNamed _).bind fun _ =>
      (spares_arg _).bind fun _ => (spares_arg _).bind fun _ => spares_pure _
  · rintro ⟨registry, factory, config, source⟩ w -
    dsimp only
    split
    · exact same_answer ..
    · exact same_startFetch ..

/-- The innermost call enters its first phase, or has its mediator looked up. -/
theorem same_lookup (m : Machine) (id : TaskId) (path : Path) (registry : RegistryId)
    (factory : FactoryId) (config : Descriptor) (business : Handle)
    (mediator : Option (RegistryId × SlotId)) :
    Same m
      (match mediator with
        | none => m.consult id path registry factory config business
        | some place =>
          match m.world.mediator? place with
          | some mediator => m.found id mediator
          | none => m) := by
  split
  · exact same_consult ..
  · split
    · exact same_found ..
    · exact .refl m

theorem turned_dispatchStep (hid : id < m.tasks.size) (path : Path) (s : DispatchStep)
    (body : List Step) :
    Turned m (m.dispatchStep id path s body) (some id)
      (Step.frameEffect m.world (m.place id).frame (.dispatch s body)) := by
  have hplace : Spares (optional none (s.mediator.map fun name => do
      pure (some (← RegistryCommand.place "mediator" (.ok name))))) := by
    cases s.mediator with
    | none => exact spares_pure _
    | some name => exact (RegistryCommand.spares_place ..).bind fun _ => spares_pure _
  have harguments := (RouterCommand.spares_named s.dispatcher).bind fun dispatcher =>
    (RegistryCommand.spares_named s.registry).bind fun registry =>
      (spares_factoryNamed s.factory).bind fun factory => (spares_arg s.config).bind fun config =>
        (Reads.spares (reads_substituteOf s.substitute)).bind fun substitute =>
          (Reads.spares (reads_contextOr s.context)).bind fun traffic =>
            hplace.bind fun mediator =>
              spares_pure (dispatcher, registry, factory, config, substitute, traffic, mediator)
  unfold dispatchStep
  dsimp only
  rcases attempt_spares harguments m path _ with
    hrefused | ⟨⟨_, registry, factory, config, _, _, mediator⟩, w, hw, hattempt⟩
  · exact hrefused.turned id
  · rw [hattempt]
    dsimp only
    generalize Dispatcher.start _ _ _ _ _ _ = started
    obtain ⟨phase, effects⟩ := started
    generalize hpushed : push _ id _ = pushed
    have hbegun : ∀ m', Same pushed m' → Turned m m' (some id) {} := by
      intro m' hsame
      rw [← hpushed] at hsame
      exact .push (w := w.take effects) hid (.of_framing hw rfl) rfl rfl hsame
    cases phase with
    | consulting =>
      refine hbegun _ ((same_emit pushed (.lookup path) .none).trans ?_)
      exact same_lookup _ id path registry factory config s.business mediator
    | calling route target mediator => exact hbegun _ (same_enterPhase ..)
    | ended result => exact hbegun _ (same_enterPhase ..)

theorem changes_intercept (w : World) (here : Place) (x : CallArguments)
    (resource : Option String) :
    (FrameEffect.ofCall w here.frame).Changes w (w.intercept here x resource).2 := by
  unfold World.intercept
  cases here.frame with
  | some f => exact .of_framing rfl rfl
  | none => exact FrameEffect.Changes.framing_congr (.newFrame w rfl) rfl

theorem enters_ofCall (w : World) (here : Place) (x : CallArguments)
    (resource : Option String) :
    (FrameEffect.ofCall w here.frame).enters = some (w.intercept here x resource).1.frame := by
  unfold World.intercept
  cases here.frame <;> rfl

theorem turned_interceptStep (hid : id < m.tasks.size) (path : Path) (s : InterceptStep)
    (body : List Step) :
    Turned m (m.interceptStep id path s body) (some id)
      (Step.frameEffect m.world (m.place id).frame (.intercept s body)) := by
  have hreads : ((callArguments s).run m.world).2 = m.world := reads_callArguments s m.world
  unfold interceptStep attempt Step.frameEffect
  dsimp only
  generalize (callArguments s).run m.world = result at hreads ⊢
  obtain ⟨x, w⟩ := result
  cases hreads
  cases x with
  | error r => exact (same_answer m path _).turned id
  | ok x =>
    dsimp only
    have hworld := changes_intercept m.world (m.place id) x s.resource
    have henters := enters_ofCall m.world (m.place id) x s.resource
    have hspawns : (FrameEffect.ofCall m.world (m.place id).frame).spawns = none := by
      cases (m.place id).frame <;> rfl
    generalize m.world.intercept (m.place id) x s.resource = intercepted at hworld henters ⊢
    obtain ⟨call, w⟩ := intercepted
    dsimp only
    generalize hpushed : push _ id _ = pushed
    have hbegun : ∀ m', Same pushed m' →
        Turned m m' (some id) (FrameEffect.ofCall m.world (m.place id).frame) := by
      intro m' hsame
      rw [← hpushed] at hsame
      exact .push hid hworld henters hspawns hsame
    cases call.phase with
    | consulting => exact hbegun _ (same_consult ..)
    | calling route target mediator => exact hbegun _ (same_enterPhase ..)
    | ended result => exact hbegun _ (same_enterPhase ..)

theorem turned_beginStep (hid : id < m.tasks.size) (path : Path) (s : Step) :
    Turned m (m.beginStep id path s) (some id)
      (Step.frameEffect m.world (m.place id).frame s) := by
  cases s with
  | refused r => exact (same_answer m path _).turned id
  | command c => exact turned_command ..
  | block b steps => exact turned_blockStep hid path b steps
  | task t => exact turned_taskStep hid path t
  | fetch s => exact (same_fetchStep m id path s).turned id
  | dispatch s steps => exact turned_dispatchStep hid path s steps
  | intercept s steps => exact turned_interceptStep hid path s steps

end ShadowTraffic.Scenario.Machine
