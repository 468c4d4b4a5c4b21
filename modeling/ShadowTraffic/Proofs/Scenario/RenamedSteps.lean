import ShadowTraffic.Proofs.Scenario.RenamedCalls

/-! # Steps under other tokens

Every step keeps machines alike: those that have bodies, those of tasks, calls, and commands. From
it follows the same of a small step, and by induction of any number of them.
-/

namespace ShadowTraffic.Scenario

variable {ρ : TokenRenaming}

open Act

/-! ## Reading the arguments of steps -/

namespace Machine

theorem steady_factoryNamed (name : Arg String) : Steady ρ (factoryNamed name) :=
  steady_known _ (fun _ _ => rfl) _

theorem steady_contextOr (name : Option (Arg String)) : Steady ρ (contextOr name) := by
  cases name with
  | none => exact steady_pure _
  | some name => exact ContextCommand.steady_named name

theorem steady_substituteOf (recipe : Option (Arg SubstituteRecipe)) :
    Steady ρ (substituteOf recipe) := by
  cases recipe with
  | none => exact steady_pure _
  | some recipe => exact (steady_arg recipe).bind fun _ => steady_pure _

theorem steady_captured (here : Place) : Steady ρ (captured here) := by
  refine agree_world.bind fun w w' hw => ?_
  obtain ⟨hframe, hworld⟩ := hw.capture here
  generalize w.capture here = kept at hframe hworld ⊢
  generalize w'.capture here = kept' at hframe hworld ⊢
  obtain ⟨frame, v⟩ := kept
  obtain ⟨frame', v'⟩ := kept'
  dsimp only at hframe hworld ⊢
  rw [hframe]
  exact (agree_set hworld).bind_eq fun _ => steady_pure _

/-- The arguments of corresponding calls differ in their configurations only. -/
theorem agree_callArguments (s : InterceptStep) :
    Agree ρ (fun x x' => x' = { x with config := x.config.rename ρ }) (callArguments s)
      (callArguments (s.rename ρ)) := by
  refine (steady_known _ (fun _ _ => rfl) _).bind fun service =>
    (steady_factoryNamed _).bind fun factory => (agree_arg (Descriptor.rename ρ) s.config).bind ?_
  rintro config _ rfl
  exact (steady_arg _).bind fun _ => (steady_arg _).bind fun _ =>
    (steady_substituteOf _).bind fun _ => agree_pure rfl

namespace Renamed

variable {m m' : Machine} {α β : Type}

/-- Steps are refused alike, or go on with arguments that correspond. -/
theorem attempt (h : Renamed ρ m m') {S : α → α → Prop} {act act' : Act α}
    (hact : Agree ρ S act act') (path : Path) {go go' : α → Machine → Machine}
    (hgo : ∀ {a a'}, S a a' → ∀ {n n'}, Renamed ρ n n' → Renamed ρ (go a n) (go' a' n')) :
    Renamed ρ (m.attempt path act go) (m'.attempt path act' go') := by
  obtain ⟨hanswers, hworld⟩ := hact.run h.world
  unfold Machine.attempt
  generalize act.run m.world = result at hanswers hworld ⊢
  generalize act'.run m'.world = result' at hanswers hworld ⊢
  obtain ⟨x, w⟩ := result
  obtain ⟨x', w'⟩ := result'
  have hafter := h.withWorld hworld
  cases hanswers with
  | error r => exact hafter.answer path rfl
  | ok hsame => exact hgo hsame hafter

/-- Steps whose arguments hold no configuration. -/
theorem attempt_eq (h : Renamed ρ m m') {act act' : Act α} (hact : Agree ρ Eq act act')
    (path : Path) {go go' : α → Machine → Machine}
    (hgo : ∀ a {n n'}, Renamed ρ n n' → Renamed ρ (go a n) (go' a n')) :
    Renamed ρ (m.attempt path act go) (m'.attempt path act' go') :=
  h.attempt hact path fun {a _} ha => ha ▸ hgo a

/-! ## Calls -/

theorem consult (h : Renamed ρ m m') (id : TaskId) (path : Path) (registry : RegistryId)
    (factory : FactoryId) (config : Descriptor) (business : Handle) :
    Renamed ρ (m.consult id path registry factory config business)
      (m'.consult id path registry factory (config.rename ρ) business) := by
  unfold Machine.consult
  rw [Descriptor.resolve_rename]
  cases config.resolve with
  | error e => exact h.enterPhase id path business _
  | ok identity => exact h.startFetch id registry factory { identity, config, business } .lookup

theorem fetchStep (h : Renamed ρ m m') (id : TaskId) (path : Path) (s : FetchStep) :
    Renamed ρ (m.fetchStep id path s) (m'.fetchStep id path (s.rename ρ)) := by
  unfold Machine.fetchStep
  refine h.attempt (S := fun x x' => x' = (x.1, x.2.1, x.2.2.1.rename ρ, x.2.2.2.rename ρ))
    ?_ path ?_
  · refine (RegistryCommand.steady_named _).bind fun registry =>
      (steady_factoryNamed _).bind fun factory => (agree_arg (Descriptor.rename ρ) s.config).bind ?_
    rintro config _ rfl
    have hsource : (s.rename ρ).identityOf.getD (.ok (config.rename ρ)) =
        (s.identityOf.getD (.ok config)).map (Descriptor.rename ρ) := by
      unfold FetchStep.rename
      cases s.identityOf <;> rfl
    rw [hsource]
    refine (agree_arg (Descriptor.rename ρ) _).bind ?_
    rintro source _ rfl
    exact agree_pure rfl
  · rintro ⟨registry, factory, config, source⟩ _ rfl n n' hn
    dsimp only
    rw [Descriptor.resolve_rename]
    cases source.resolve with
    | error e => exact hn.answer path rfl
    | ok identity =>
      exact hn.startFetch id registry factory { identity, config, business := s.business }
        (.step path s.keptAs)

theorem interceptStep (h : Renamed ρ m m') (id : TaskId) (path : Path) (s : InterceptStep)
    (body : List Step) :
    Renamed ρ (m.interceptStep id path s body)
      (m'.interceptStep id path (s.rename ρ) (Step.renameAll ρ body)) := by
  refine h.attempt (agree_callArguments s) path ?_
  rintro x _ rfl n n' hn
  obtain ⟨hcall, hworld⟩ := hn.world.intercept (n.place id) x s.resource
  have hphase := n.world.rename_intercept (ρ := ρ) (n.place id) x s.resource
  have hconfig : n'.world.intercept (n.place id) { x with config := x.config.rename ρ }
      (s.rename ρ).resource = n'.world.intercept (n.place id) x s.resource := rfl
  dsimp only
  rw [hn.place, hconfig]
  generalize n.world.intercept (n.place id) x s.resource = begun at hcall hworld hphase ⊢
  generalize n'.world.intercept (n.place id) x s.resource = begun' at hcall hworld ⊢
  obtain ⟨⟨frame, stack, ticket, phase, span⟩, w⟩ := begun
  obtain ⟨call', w'⟩ := begun'
  dsimp only at hcall hworld hphase ⊢
  subst hcall
  have hpushed := (hn.withWorld hworld).push id {
    ending := .call path {
      registry := x.service.registry
      dispatcher := x.service.dispatcher
      ticket := some (stack, ticket)
      phase
      business := s.business
      script := s.script }
    path := path ++ "."
    rest := body
    frame := some frame
    span }
  have hentered := hpushed.enterPhase id path s.business phase
  dsimp only [Activation.rename, Ending.rename, Envelope.rename] at hpushed hentered ⊢
  rw [hphase] at hpushed hentered
  cases phase with
  | consulting =>
    exact hpushed.consult id path x.service.registry x.factory x.config s.business
  | calling route target mediator => exact hentered
  | ended result => exact hentered

theorem dispatchStep (h : Renamed ρ m m') (id : TaskId) (path : Path) (s : DispatchStep)
    (body : List Step) :
    Renamed ρ (m.dispatchStep id path s body)
      (m'.dispatchStep id path (s.rename ρ) (Step.renameAll ρ body)) := by
  unfold Machine.dispatchStep
  refine h.attempt (S := fun x x' =>
    x' = (x.1, x.2.1, x.2.2.1, x.2.2.2.1.rename ρ, x.2.2.2.2)) ?_ path ?_
  · refine (RouterCommand.steady_named _).bind fun _ => (RegistryCommand.steady_named _).bind
      fun _ => (steady_factoryNamed _).bind fun _ =>
        (agree_arg (Descriptor.rename ρ) s.config).bind ?_
    rintro config _ rfl
    refine (steady_substituteOf _).bind fun _ => (steady_contextOr _).bind fun _ =>
      Agree.bind_eq ?_ fun _ => agree_pure rfl
    obtain ⟨dispatcher, registry, factory, config, substitute, context, mediator⟩ := s
    cases mediator with
    | none => exact steady_pure _
    | some name => exact (RegistryCommand.steady_place _ _).bind fun _ => steady_pure _
  · rintro ⟨dispatcher, registry, factory, config, substitute, traffic, mediator⟩ _ rfl n n' hn
    have hdispatcher : n'.world.dispatcher dispatcher = n.world.dispatcher dispatcher :=
      hn.world.read (·.dispatcher dispatcher) fun _ _ => rfl
    have hrules : n'.world.rules (n.world.dispatcher dispatcher).propagator =
        n.world.rules (n.world.dispatcher dispatcher).propagator :=
      hn.world.read (·.rules _) fun _ _ => rfl
    have hservice : n'.world.serviceRegistry? dispatcher = n.world.serviceRegistry? dispatcher :=
      hn.world.read (fun w => World.serviceRegistry? w dispatcher) fun _ _ => rfl
    have hphase := (n.world.dispatcher dispatcher).rename_start (ρ := ρ)
      (n.world.rules (n.world.dispatcher dispatcher).propagator) traffic s.resource substitute
      (n.place id).span
    dsimp only [DispatchStep.rename]
    rw [hdispatcher, hrules, hservice, hn.place]
    generalize (n.world.dispatcher dispatcher).start _ traffic s.resource substitute _ = started
      at hphase ⊢
    obtain ⟨phase, effects⟩ := started
    dsimp only at hphase ⊢
    have htaken : Renamed ρ (n.take effects) (n'.take effects) := hn.take rfl
    have hpushed := htaken.push id {
      ending := .call path {
        registry
        service := n.world.serviceRegistry? dispatcher
        dispatcher
        ticket := none
        phase
        business := s.business
        script := s.script }
      path := path ++ "."
      rest := body }
    have hentered := hpushed.enterPhase id path s.business phase
    dsimp only [Activation.rename, Ending.rename, Envelope.rename] at hpushed hentered ⊢
    rw [hphase] at hpushed hentered
    cases phase with
    | consulting =>
      have hemitted := hpushed.emit (.lookup path) (show Reply.Alike .none .none from rfl)
      cases mediator with
      | none => exact hemitted.consult id path registry factory config s.business
      | some place =>
        have hmediator := hemitted.world.mediator? place
        dsimp only
        rw [hmediator]
        generalize Machine.emit _ (.lookup path) .none = n at hemitted ⊢
        generalize Machine.emit _ (.lookup path) .none = n' at hemitted ⊢
        cases n.world.mediator? place with
        | none => exact hemitted
        | some mediator => exact hemitted.found id mediator
    | calling route target mediator => exact hentered
    | ended result => exact hentered

/-! ## Steps with bodies -/

theorem resume (h : Renamed ρ m m') (id : TaskId) (c : Continuation) (ending : Ending) :
    Renamed ρ (m.resume id c ending) (m'.resume id (c.rename ρ) (ending.rename ρ)) :=
  h.push id { ending, path := c.path, rest := c.body, frame := some c.frame }

theorem blockStep (h : Renamed ρ m m') (id : TaskId) (path : Path) (b : Block)
    (steps : List Step) :
    Renamed ρ (m.blockStep id path b steps)
      (m'.blockStep id path b (Step.renameAll ρ steps)) := by
  unfold Machine.blockStep
  dsimp only
  rw [h.place]
  cases b with
  | withContext context =>
    refine h.attempt_eq (steady_contextOr context) path fun t {n n'} hn => ?_
    obtain ⟨hframe, hworld⟩ := hn.world.newFrame t
    generalize n.world.newFrame t = made at hframe hworld ⊢
    generalize n'.world.newFrame t = made' at hframe hworld ⊢
    obtain ⟨frame, w⟩ := made
    obtain ⟨frame', w'⟩ := made'
    dsimp only at hframe hworld ⊢
    subst hframe
    exact (hn.withWorld hworld).push id (body path (.done path) steps (some frame'))
  | carry =>
    exact h.attempt_eq (steady_captured _) path fun frame {n n'} hn =>
      hn.push id (body path (.done path) steps (some frame))
  | catching => exact h.push id (body path (.caught path) steps none)
  | guarded stack boundary policy =>
    refine h.attempt_eq ((steady_stack _ _).bind fun _ => (steady_arg _).bind fun _ =>
      (steady_arg _).bind fun _ => steady_pure _) path fun x {n n'} hn => ?_
    obtain ⟨stack, boundary, policy⟩ := x
    obtain ⟨hticket, hworld⟩ := hn.world.enter stack boundary policy
    dsimp only
    generalize n.world.enter stack boundary policy = entered at hticket hworld ⊢
    generalize n'.world.enter stack boundary policy = entered' at hticket hworld ⊢
    obtain ⟨ticket, w⟩ := entered
    obtain ⟨ticket', w'⟩ := entered'
    dsimp only at hticket hworld ⊢
    subst hticket
    split
    · exact (hn.withWorld hworld).push id
        (body path (.guarded path stack ticket') steps none)
    · exact (hn.withWorld (hworld.dropTicket stack ticket')).answer path rfl
  | bind name =>
    refine h.attempt_eq ?_ path fun _ {n n'} hn => hn.answer path rfl
    refine (steady_arg name).bind fun name => (steady_captured _).bind fun frame =>
      agree_modify fun hw => ?_
    exact hw.withCallbacks (hw.callbacks.insert name ⟨frame, path ++ ".", steps⟩)
  | carryLater name =>
    refine h.attempt_eq ?_ path fun _ {n n'} hn => hn.answer path rfl
    refine (steady_arg name).bind fun name => (steady_captured _).bind fun frame =>
      agree_modify fun hw => ?_
    exact hw.withFutures (hw.futures.insert name ⟨frame, path ++ ".", steps⟩)
  | spawn name carry =>
    refine h.attempt_eq ?_ path fun x {n n'} hn => ?_
    · refine (steady_arg name).bind fun name => ?_
      cases carry with
      | false => exact steady_pure _
      | true => exact (steady_captured _).bind fun _ => steady_pure _
    · obtain ⟨name, frame⟩ := x
      have hsize : n'.tasks.size = n.tasks.size := by rw [hn.tasks, Array.size_map]
      dsimp only
      rw [hsize, hn.jobs, hn.ready]
      have hspawned : Renamed ρ
          { n with
            tasks := n.tasks.push { activations := [body path .task steps frame] }
            jobs := n.jobs.insert name n.tasks.size
            ready := n.ready ++ [n.tasks.size] }
          { n' with
            tasks := n'.tasks.push
              { activations := [body path .task (Step.renameAll ρ steps) frame] }
            jobs := n.jobs.insert name n.tasks.size
            ready := n.ready ++ [n.tasks.size] } := by
        refine { hn with tasks := ?_, jobs := rfl, ready := rfl }
        dsimp only
        rw [hn.tasks, Array.map_push]
        rfl
      exact hspawned.answer path rfl

/-! ## Tasks -/

theorem join (h : Renamed ρ m m') (id : TaskId) (path : Path) (other : TaskId) (abort : Bool) :
    Renamed ρ (m.join id path other abort) (m'.join id path other abort) := by
  have hfocus := h.setFocus id (.joining path other)
  unfold Machine.join
  dsimp only [Focus.rename] at hfocus ⊢
  rw [hfocus.ended]
  split
  · exact hfocus
  · have hjoined := hfocus.modifyTask other
      (fun t => { t with joiners := t.joiners ++ [id], cancelled := t.cancelled || abort })
      (fun t => { t with joiners := t.joiners ++ [id], cancelled := t.cancelled || abort })
      fun _ => rfl
    split
    · exact (hjoined.wake other).suspend
    · exact hjoined.suspend

theorem taskStep (h : Renamed ρ m m') (id : TaskId) (path : Path) (t : TaskStep) :
    Renamed ρ (m.taskStep id path t) (m'.taskStep id path t) := by
  unfold Machine.taskStep
  cases t with
  | callback name thread =>
    refine h.attempt (S := fun c c' : Continuation => c' = c.rename ρ) ?_ path ?_
    · refine (agree_known _ (fun hw => hw.callbacks) name).bind ?_
      rintro c _ rfl
      refine (steady_arg name).bind fun name => Agree.bind_eq (agree_modify fun hw => ?_) fun _ =>
        agree_pure rfl
      exact hw.withCallbacks (hw.callbacks.erase name)
    · rintro c _ rfl n n' hn
      cases thread with
      | true => exact hn.resume id c (.thread path)
      | false => exact hn.resume id c (.done path)
  | await name =>
    refine h.attempt (S := fun c c' : Continuation => c' = c.rename ρ) ?_ path ?_
    · refine (agree_known _ (fun hw => hw.futures) name).bind ?_
      rintro c _ rfl
      refine (steady_arg name).bind fun name => Agree.bind_eq (agree_modify fun hw => ?_) fun _ =>
        agree_pure rfl
      exact hw.withFutures (hw.futures.erase name)
    · rintro c _ rfl n n' hn
      exact hn.resume id c (.done path)
  | join name abort =>
    dsimp only
    rw [h.jobs]
    refine h.attempt_eq ?_ path fun x {n n'} hn => ?_
    · refine (steady_arg name).bind fun name => ?_
      cases m.jobs.get? name with
      | none => exact ⟨fun hw => ⟨.error _, hw⟩⟩
      | some other => exact steady_pure _
    · obtain ⟨name, other⟩ := x
      dsimp only
      rw [hn.jobs]
      have herased : Renamed ρ { n with jobs := n.jobs.erase name }
          { n' with jobs := n.jobs.erase name } := { hn with jobs := rfl }
      exact herased.join id path other abort
  | settle =>
    have hfocus := h.setFocus id (.settling path)
    dsimp only [Focus.rename] at hfocus ⊢
    rw [h.settling]
    have hqueued : Renamed ρ
        { m.setFocus id (.settling path) with settling := m.settling ++ [id] }
        { m'.setFocus id (.settling path) with settling := m.settling ++ [id] } :=
      { hfocus with settling := rfl }
    exact hqueued.suspend
  | wait gate =>
    exact h.attempt_eq (steady_arg gate) path fun gate {n n'} hn =>
      (hn.setFocus id (.waiting path gate)).queueAt id gate
  | openGate gate =>
    refine h.attempt_eq (steady_arg gate) path fun gate {n n'} hn => ?_
    have hgate : n'.world.gate gate = n.world.gate gate :=
      hn.world.read (·.gate gate) fun _ _ => rfl
    have hopened := hn.world.update (f := (·.setGate gate { isOpen := true })) (fun _ _ => rfl)
      fun _ => rfl
    dsimp only
    rw [hgate]
    exact ((hn.withWorld hopened).wakeAll _).answer path rfl
  | panics message => exact h.panics id message

/-! ## A small step -/

/-- What is read first decides whether the rest is done. -/
theorem attempt_bind (m : Machine) (path : Path) (act : Act α) (next : α → Act β)
    (go : β → Machine → Machine) :
    m.attempt path (act >>= next) go =
      m.attempt path act fun a m => m.attempt path (next a) go := by
  unfold Machine.attempt
  rw [run_bind]
  generalize act.run m.world = result
  obtain ⟨x, w⟩ := result
  cases x <;> rfl

/-- A release reports in another order, so it is not one of the actions that agree. -/
theorem releaseStep (h : Renamed ρ m m') (path : Path) (what : ReleaseOf) :
    Renamed ρ (m.attempt path (RegistryCommand.release what).run fun reply m => m.answer path reply)
      (m'.attempt path (RegistryCommand.release what).run fun reply m => m.answer path reply) := by
  have hreleased {n n' : Machine} (hn : Renamed ρ n n') (id : RegistryId) :
      Renamed ρ ({ n with world := (n.world.release id).2 }.answer path
          (.count (n.world.release id).1))
        ({ n' with world := (n'.world.release id).2 }.answer path
          (.count (n'.world.release id).1)) := by
    obtain ⟨hcount, hworld, hevents⟩ := hn.world.release id
    rw [hcount]
    exact hn.emitIn hworld (.step path) rfl (.inr ⟨rfl, hevents⟩)
  cases what with
  | registry name =>
    unfold RegistryCommand.run
    rw [attempt_bind, attempt_bind]
    exact h.attempt_eq (RegistryCommand.steady_named name) path fun id {n n'} hn => hreleased hn id
  | service name =>
    unfold RegistryCommand.run
    rw [attempt_bind, attempt_bind]
    exact h.attempt_eq (steady_known _ (fun _ _ => rfl) _) path fun s {n n'} hn =>
      hreleased hn s.registry

theorem beginStep (h : Renamed ρ m m') (id : TaskId) (path : Path) (s : Step) :
    Renamed ρ (m.beginStep id path s) (m'.beginStep id path (s.rename ρ)) := by
  cases s with
  | refused r => exact h.answer path rfl
  | command c =>
    by_cases hrelease : ∃ what, c = .registry (.release what)
    · obtain ⟨what, rfl⟩ := hrelease
      exact h.releaseStep path what
    · have hrun := c.agree_run (ρ := ρ) (m.place id) fun what hc => hrelease ⟨what, hc⟩
      unfold Machine.beginStep
      dsimp only [Step.rename]
      rw [h.place]
      exact h.attempt hrun path fun {_ _} hreply {n n'} hn => hn.answer path hreply
  | block b steps => exact h.blockStep id path b steps
  | task t => exact h.taskStep id path t
  | fetch s => exact h.fetchStep id path s
  | dispatch s steps => exact h.dispatchStep id path s steps
  | intercept s steps => exact h.interceptStep id path s steps

theorem endBody (h : Renamed ρ m m') (id : TaskId) (e : Ending) :
    Renamed ρ (m.endBody id e) (m'.endBody id (e.rename ρ)) := by
  cases e with
  | task => exact h.finish id .done
  | done path => exact h.answer path rfl
  | caught path => exact h.answer path rfl
  | thread path => exact h.answer path rfl
  | guarded path stack t => exact (h.withWorld (h.world.dropTicket stack t)).answer path rfl
  | call path e => exact h.callEnds path e

theorem stepOn (h : Renamed ρ m m') (id : TaskId) : Renamed ρ (m.stepOn id) (m'.stepOn id) := by
  have hleft (activations : List Activation) := h.modifyTask id
    (fun t => { t with activations })
    (fun t => { t with activations := activations.map (Activation.rename ρ) }) fun _ => rfl
  unfold Machine.stepOn
  rw [h.activations]
  cases (m.task id).activations with
  | nil => exact h.finish id .done
  | cons a rest =>
    obtain ⟨ending, path, next, body, frame, span⟩ := a
    cases body with
    | nil => exact (hleft rest).endBody id ending
    | cons s more =>
      exact (hleft (⟨ending, path, next + 1, more, frame, span⟩ :: rest)).beginStep id _ s

theorem advance (h : Renamed ρ m m') (id : TaskId) : Renamed ρ (m.advance id) (m'.advance id) := by
  have hcancelled : (m'.task id).cancelled = (m.task id).cancelled := by
    rw [h.task]
    rfl
  unfold Machine.advance
  dsimp only
  rw [h.ended, hcancelled, h.focus]
  split
  · exact h.suspend
  split
  · exact h.cancel id
  cases (m.task id).focus with
  | stepping => exact h.stepOn id
  | waiting path gate =>
    have hgate : m'.world.gate gate = m.world.gate gate :=
      h.world.read (·.gate gate) fun _ _ => rfl
    dsimp only [Focus.rename]
    rw [hgate]
    split
    · exact (h.setFocus id .stepping).answer path rfl
    · exact h.suspend
  | joining path other =>
    dsimp only [Focus.rename]
    rw [h.ended]
    cases (m.task other).ended with
    | some e => exact (h.setFocus id .stepping).answer path rfl
    | none => exact h.suspend
  | settling path => exact (h.setFocus id .stepping).answer path rfl
  | fetching f => exact h.fetchOn id f

/-- Machines that are alike make small steps that keep them alike, or are at their end. -/
theorem step? (h : Renamed ρ m m') : Option.Rel (Renamed ρ) m.step? m'.step? := by
  unfold Machine.step?
  rw [h.ended, h.current]
  split
  · exact .none
  · cases m.current with
    | some id => exact .some (h.advance id)
    | none => exact h.next?

/-- Machines that are alike stay alike however many small steps they make. -/
theorem run (h : Renamed ρ m m') (bound : Nat) : Renamed ρ (m.run bound) (m'.run bound) := by
  induction bound generalizing m m' with
  | zero => exact h
  | succ bound ih =>
    have hstep := h.step?
    unfold Machine.run
    generalize m.step? = next at hstep ⊢
    generalize m'.step? = next' at hstep ⊢
    cases hstep with
    | none => exact h
    | some hnext => exact ih hnext

end Renamed

theorem renamed_start (script : List Step) :
    Renamed ρ (start script) (start (Step.renameAll ρ script)) where
  world := World.renamed_start
  tasks := by simp [start]; rfl
  jobs := rfl
  current := rfl
  ready := rfl
  settling := rfl
  entries := .nil

end Machine

end ShadowTraffic.Scenario
