import ShadowTraffic.Proofs.Scenario.RenamedCommands
import ShadowTraffic.Proofs.Scenario.RenamedTasks

/-! # Calls under other tokens

Asking for a mediator, a dispatch and an intercepted call keep machines alike, stretch by stretch.
-/

namespace ShadowTraffic

variable {ρ : TokenRenaming}

/-! ## Routing -/

namespace Dispatcher

/-- The first phase of a dispatch has no identity in it. -/
theorem rename_start {α ε : Type} (d : Dispatcher) (rules : Rules) (t : TrafficContext)
    (resource : Option String) (substitute : Option (Substitute α ε)) (span : Option SpanId) :
    (d.start rules t resource substitute span).1.rename ρ =
      (d.start rules t resource substitute span).1 := by
  unfold start
  cases d.judge rules t resource substitute with
  | answer a => cases a <;> rfl
  | _ => rfl

theorem rename_mediate {α ε : Type} (d : Dispatcher) (rules : Rules) (t : TrafficContext)
    (boundary : String) (resource : Option String) (substitute : Option (Substitute α ε))
    (entered : Bool) (around : Option SpanId) (fresh : SpanId) :
    (d.mediate rules t boundary resource substitute entered around fresh).1.rename ρ =
      (d.mediate rules t boundary resource substitute entered around fresh).1 := by
  unfold mediate
  split
  · exact rename_start ..
  · rfl

theorem found_rename {α ε : Type} (d : Dispatcher) (m : Mediator) (span : Option SpanId) :
    (d.found (m.rename ρ) span : DispatchPhase α ε × List Effect).1 = (d.found m span).1.rename ρ ∧
      shown (d.found (m.rename ρ) span : DispatchPhase α ε × List Effect).2 =
        shown (d.found m span : DispatchPhase α ε × List Effect).2 := by
  have htarget : target (m.rename ρ) = target m := rfl
  unfold found
  rw [htarget]
  refine ⟨rfl, ?_⟩
  dsimp only
  rw [shown_append, shown_append]
  refine congrArg (· ++ _) ?_
  unfold targetNotices
  rw [htarget]
  split
  · simp [Effect.shown, Notice.level, Notice.target, Notice.message, Notice.fields]
  · split
    · simp [Effect.shown, Notice.level, Notice.target, Notice.message, Notice.fields]
    · rfl

theorem finish_rename {α ε : Type} (route : Route) (target : Target) (mediator : Option Identity)
    (outcome : Except ε α) :
    (finish route target (mediator.map (Identity.rename ρ)) outcome).1 =
        Dispatched.renameResult ρ (finish route target mediator outcome).1 ∧
      shown (finish route target (mediator.map (Identity.rename ρ)) outcome).2 =
        shown (finish route target mediator outcome).2 := by
  cases outcome with
  | ok value => exact ⟨rfl, rfl⟩
  | error e =>
    cases target with
    | business => exact ⟨rfl, rfl⟩
    | shadow h =>
      cases mediator with
      | none => exact ⟨rfl, rfl⟩
      | some identity =>
        refine ⟨rfl, ?_⟩
        simp [finish, Effect.shown, Notice.level, Notice.target, Notice.message, Notice.fields]

end Dispatcher

namespace Scenario

/-! ## Interception -/

/-- A call inside a frame is intercepted. -/
theorem World.Renamed.interceptInside {w w' : World} (h : World.Renamed ρ w w') (frame : FrameId)
    (around : Option SpanId) (x : CallArguments) (resource : Option String) :
    (w'.intercept ⟨some frame, around⟩ x resource).1 =
        (w.intercept ⟨some frame, around⟩ x resource).1 ∧
      World.Renamed ρ (w.intercept ⟨some frame, around⟩ x resource).2
        (w'.intercept ⟨some frame, around⟩ x resource).2 := by
  have hstack : w'.currentStack ⟨some frame, around⟩ = w.currentStack ⟨some frame, around⟩ :=
    h.read (·.currentStack ⟨some frame, around⟩) fun _ _ => rfl
  obtain ⟨hticket, hentered⟩ :=
    h.enter (w.currentStack ⟨some frame, around⟩) x.boundary x.policy
  unfold World.intercept
  dsimp only
  rw [hstack]
  generalize w.enter _ x.boundary x.policy = entered at hticket hentered ⊢
  generalize w'.enter _ x.boundary x.policy = entered' at hticket hentered ⊢
  obtain ⟨ticket, v⟩ := entered
  obtain ⟨ticket', v'⟩ := entered'
  dsimp only at hticket hentered ⊢
  subst hticket
  have hdispatcher : v'.dispatcher x.service.dispatcher = v.dispatcher x.service.dispatcher :=
    hentered.read (·.dispatcher x.service.dispatcher) fun _ _ => rfl
  have hcurrent : v'.current? ⟨some frame, around⟩ = v.current? ⟨some frame, around⟩ :=
    hentered.read (·.current? ⟨some frame, around⟩) fun _ _ => rfl
  obtain ⟨hfresh, hnext⟩ := hentered.freshSpan
  rw [hdispatcher, hcurrent]
  generalize v.freshSpan = next at hfresh hnext ⊢
  generalize v'.freshSpan = next' at hfresh hnext ⊢
  obtain ⟨fresh, u⟩ := next
  obtain ⟨fresh', u'⟩ := next'
  dsimp only at hfresh hnext ⊢
  subst hfresh
  have hrules : u'.rules (v.dispatcher x.service.dispatcher).propagator =
      u.rules (v.dispatcher x.service.dispatcher).propagator :=
    hnext.read (·.rules _) fun _ _ => rfl
  rw [hrules]
  exact ⟨rfl, hnext.take rfl⟩

theorem World.Renamed.intercept {w w' : World} (h : World.Renamed ρ w w') (here : Place)
    (x : CallArguments) (resource : Option String) :
    (w'.intercept here x resource).1 = (w.intercept here x resource).1 ∧
      World.Renamed ρ (w.intercept here x resource).2 (w'.intercept here x resource).2 := by
  obtain ⟨frame, span⟩ := here
  cases frame with
  | some frame => exact h.interceptInside frame span x resource
  | none =>
    obtain ⟨hframe, hnew⟩ := h.newFrame {}
    -- Outside a frame the call gets one first.
    have hframed (w : World) : w.intercept ⟨none, span⟩ x resource =
        (w.newFrame {}).2.intercept ⟨some (w.newFrame {}).1, span⟩ x resource := rfl
    rw [hframed w, hframed w', hframe]
    exact hnew.interceptInside (w.newFrame {}).1 span x resource

/-- An intercepted call begins without an identity. -/
theorem World.rename_intercept (w : World) (here : Place) (x : CallArguments)
    (resource : Option String) :
    (w.intercept here x resource).1.phase.rename ρ = (w.intercept here x resource).1.phase :=
  Dispatcher.rename_mediate ..

/-! ## The call itself -/

theorem Machine.setPhase_rename (phase : DispatchPhase String String)
    (activations : List Activation) :
    setPhase (phase.rename ρ) (activations.map (Activation.rename ρ)) =
      (setPhase phase activations).map (Activation.rename ρ) := by
  cases activations with
  | nil => rfl
  | cons a rest =>
    obtain ⟨ending, path, next, body, frame, span⟩ := a
    cases ending with
    | call path e => cases phase <;> rfl
    | _ => rfl

theorem World.Renamed.callRuns {w w' : World} (h : World.Renamed ρ w w') (handle : Handle)
    (script : CallScript) :
    (Machine.callRuns w' handle script).1 = (Machine.callRuns w handle script).1 ∧
      World.Renamed ρ (Machine.callRuns w handle script).2
        (Machine.callRuns w' handle script).2 := by
  obtain ⟨fail, row⟩ := script
  cases fail with
  | some message => exact ⟨rfl, h⟩
  | none =>
    obtain ⟨hrows, hworld⟩ := h.write handle row
    refine ⟨?_, hworld⟩
    exact congrArg (fun rows : Nat => (.ok (handle ++ ":" ++ toString rows) : Except String String))
      hrows

namespace Machine.Renamed

variable {m m' : Machine}

theorem enterPhase (h : Renamed ρ m m') (id : TaskId) (path : Path) (business : Handle)
    (phase : DispatchPhase String String) :
    Renamed ρ (m.enterPhase id path business phase)
      (m'.enterPhase id path business (phase.rename ρ)) := by
  have hentered := h.modifyTask id
    (fun t => { t with activations := setPhase phase t.activations, focus := .stepping })
    (fun t => { t with
      activations := setPhase (phase.rename ρ) t.activations, focus := .stepping }) fun t => by
    simp only [Task.rename, setPhase_rename]
    rfl
  cases phase with
  | calling route target mediator => exact hentered.emit (.call path) rfl
  | consulting => exact hentered
  | ended result => exact hentered

/-- The innermost body is a call, and its look-up gave a mediator. -/
theorem found_call {m : Machine} {id : TaskId} {path prefixed : Path} {e : Envelope} {next : Nat}
    {body : List Step} {frame : Option FrameId} {span : Option SpanId} {rest : List Activation}
    (h : (m.task id).activations = ⟨.call path e, prefixed, next, body, frame, span⟩ :: rest)
    (mediator : Mediator) :
    m.found id mediator =
      let found : DispatchPhase String String × List Effect :=
        (m.world.dispatcher e.dispatcher).found mediator (m.place id).span
      (m.take found.2).enterPhase id path e.business found.1 := by
  unfold Machine.found
  rw [h]

theorem found (h : Renamed ρ m m') (id : TaskId) (mediator : Mediator) :
    Renamed ρ (m.found id mediator) (m'.found id (mediator.rename ρ)) := by
  have hactivations := h.activations id
  cases hbodies : (m.task id).activations with
  | nil =>
    rw [hbodies] at hactivations
    unfold Machine.found
    rw [hbodies, hactivations]
    exact h
  | cons a rest =>
    obtain ⟨ending, prefixed, next, body, frame, span⟩ := a
    rw [hbodies] at hactivations
    cases ending with
    | call path e =>
      have hdispatcher : m'.world.dispatcher e.dispatcher = m.world.dispatcher e.dispatcher :=
        h.world.read (·.dispatcher e.dispatcher) fun _ _ => rfl
      obtain ⟨hphase, heffects⟩ := (m.world.dispatcher e.dispatcher).found_rename (ρ := ρ)
        (α := String) (ε := String) mediator (m.place id).span
      rw [found_call hbodies, found_call hactivations]
      dsimp only [Envelope.rename]
      rw [hdispatcher, h.place, hphase]
      exact (h.take heffects).enterPhase id path e.business _
    | _ =>
      unfold Machine.found
      rw [hbodies, hactivations]
      exact h

theorem callEnds (h : Renamed ρ m m') (path : Path) (e : Envelope) :
    Renamed ρ (m.callEnds path e) (m'.callEnds path (e.rename ρ)) := by
  have hends {n n' : Machine} (hn : Renamed ρ n n')
      (result : Except (DispatchError String) (Dispatched String)) :
      Renamed ρ
        ({ n with world := (Ending.call path e).cleanUp n.world }.answer path (.dispatched result))
        ({ n' with world := (Ending.call path (e.rename ρ)).cleanUp n'.world }.answer path
          (.dispatched (Dispatched.renameResult ρ result))) := by
    refine (hn.withWorld (hn.world.cleanUp (.call path e))).answer path ?_
    cases result with
    | ok d => rfl
    | error e =>
      exact congrArg (fun e : DispatchError String => Reply.dispatched (.error e)) e.masked_rename
  obtain ⟨registry, service, dispatcher, ticket, phase, business, script⟩ := e
  cases phase with
  | consulting => exact hends h (.error .switchedOff)
  | ended result => exact hends h result
  | calling route target mediator =>
    obtain ⟨houtcome, hran⟩ := h.world.callRuns (targetHandle business target) script
    have hfinish := Dispatcher.finish_rename (ρ := ρ) route target mediator
      (callRuns m.world (targetHandle business target) script).1
    unfold Machine.callEnds
    dsimp only [Envelope.rename, DispatchPhase.rename]
    generalize callRuns m.world _ script = ran at houtcome hran hfinish ⊢
    generalize callRuns m'.world _ script = ran' at houtcome hran ⊢
    obtain ⟨outcome, w⟩ := ran
    obtain ⟨outcome', w'⟩ := ran'
    dsimp only at houtcome hran hfinish ⊢
    subst houtcome
    obtain ⟨hresult, heffects⟩ := hfinish
    generalize Dispatcher.finish route target mediator outcome' = finished at hresult heffects ⊢
    generalize Dispatcher.finish route target (mediator.map (Identity.rename ρ)) outcome' =
      finished' at hresult heffects ⊢
    obtain ⟨result, effects⟩ := finished
    obtain ⟨result', effects'⟩ := finished'
    dsimp only at hresult heffects ⊢
    subst hresult
    exact hends (h.withWorld (hran.take heffects)) result

/-! ## Asking for a mediator -/

theorem takeFetch (h : Renamed ρ m m') (id : TaskId) (f : Fetching)
    {s s' : Stretch FetchOutcome} (hs : Fetch.Renamed ρ s s') :
    Renamed ρ (m.takeFetch id f s) (m'.takeFetch id (f.rename ρ) s') := by
  have htaken := (h.withWorld (h.world.takeStretch f.registry hs)).wakeAll s.woken
  unfold Machine.takeFetch
  dsimp only [Fetching.rename]
  rw [hs.woken, hs.outcome]
  generalize Machine.wakeAll { m with world := _ } s.woken = n at htaken ⊢
  generalize Machine.wakeAll { m' with world := _ } s.woken = n' at htaken ⊢
  cases s.outcome with
  | pending phase =>
    have hfocus := htaken.setFocus id (.fetching { f with phase, build := none })
    cases phase with
    | waiting slot => exact hfocus.suspend
    | building slot span => exact hfocus
    | closing slot m => exact hfocus
  | got slot =>
    have hfocus := htaken.setFocus id .stepping
    have hmediator := hfocus.world.mediator? (f.registry, slot)
    dsimp only [FetchOutcome.rename, Focus.rename] at hfocus hmediator ⊢
    rw [hmediator]
    generalize n.setFocus id .stepping = n at hfocus ⊢
    generalize n'.setFocus id .stepping = n' at hfocus ⊢
    cases f.use with
    | step path keptAs =>
      refine (hfocus.withWorld (hfocus.world.keepMediator keptAs (f.registry, slot))).answer path ?_
      cases n.world.mediator? (f.registry, slot) with
      | none => rfl
      | some m => exact congrArg (fun m => Reply.mediator (some m)) m.masked_rename
    | lookup =>
      cases n.world.mediator? (f.registry, slot) with
      | none => exact hfocus
      | some m => exact hfocus.found id m

/-- The next stretch begins with a span number at hand. -/
theorem takeNext (h : Renamed ρ m m') (id : TaskId) (f : Fetching)
    (s s' : World → SpanId → Stretch FetchOutcome)
    (hs : ∀ {w w'}, World.Renamed ρ w w' → ∀ fresh, Fetch.Renamed ρ (s w fresh) (s' w' fresh)) :
    Renamed ρ
      ({ m with world := m.world.freshSpan.2 }.takeFetch id f
        (s m.world.freshSpan.2 m.world.freshSpan.1))
      ({ m' with world := m'.world.freshSpan.2 }.takeFetch id (f.rename ρ)
        (s' m'.world.freshSpan.2 m'.world.freshSpan.1)) := by
  obtain ⟨hfresh, hworld⟩ := h.world.freshSpan
  rw [hfresh]
  exact (h.withWorld hworld).takeFetch id f (hs hworld _)

theorem startFetch (h : Renamed ρ m m') (id : TaskId) (registry : RegistryId)
    (factory : FactoryId) (request : Request) (use : FetchUse) :
    Renamed ρ (m.startFetch id registry factory request use)
      (m'.startFetch id registry factory (request.rename ρ) use) :=
  h.takeNext id { registry, factory, request, use, phase := .waiting 0, build := none }
    (fun w fresh => Fetch.start (w.registry registry) id request fresh)
    (fun w fresh => Fetch.start (w.registry registry) id (request.rename ρ) fresh)
    fun hw fresh => Fetch.renamed_start (hw.registry registry) id request fresh

theorem buildEnds (h : Renamed ρ m m') (id : TaskId) (f : Fetching) (slot : SlotId)
    (span : SpanId) (p : Provision) :
    Renamed ρ (m.buildEnds id f slot span p) (m'.buildEnds id (f.rename ρ) slot span p) :=
  h.takeNext id f
    (fun w fresh => Fetch.built (w.registry f.registry) id f.request fresh slot span p)
    (fun w fresh => Fetch.built (w.registry f.registry) id (f.request.rename ρ) fresh slot span p)
    fun hw fresh => Fetch.renamed_built (hw.registry f.registry) id f.request fresh slot span p

theorem actOn (h : Renamed ρ m m') (id : TaskId) (f : Fetching) (slot : SlotId) (span : SpanId)
    (factory : String) (number : Nat) (outcome : BuildOutcome) :
    Renamed ρ (m.actOn id f slot span factory number outcome)
      (m'.actOn id (f.rename ρ) slot span factory number outcome) := by
  cases outcome with
  | fresh closeFails =>
    have hset := h.world.update (f := fun w => w.setHandle (factory ++ "#" ++ toString number)
      { w.handle (factory ++ "#" ++ toString number) with closeFails }) (fun _ _ => rfl)
      fun _ => rfl
    exact (h.withWorld hset).buildEnds id f slot span _
  | panics message => exact h.panics id message
  | _ => exact h.buildEnds id f slot span _

theorem queueAt (h : Renamed ρ m m') (id : TaskId) (gate : String) :
    Renamed ρ (m.queueAt id gate) (m'.queueAt id gate) := by
  have hgate : m'.world.gate gate = m.world.gate gate := h.world.read (·.gate gate) fun _ _ => rfl
  have hset := h.world.update (f := (·.setGate gate
    { m.world.gate gate with queue := (m.world.gate gate).queue ++ [id] })) (fun _ _ => rfl)
    fun _ => rfl
  unfold Machine.queueAt
  dsimp only
  rw [hgate]
  split
  · exact h
  · exact (h.withWorld hset).suspend

theorem build (h : Renamed ρ m m') (id : TaskId) (f : Fetching) (slot : SlotId) (span : SpanId) :
    Renamed ρ (m.build id f slot span) (m'.build id (f.rename ρ) slot span) := by
  have hfactory : m'.world.factory f.factory = m.world.factory f.factory :=
    h.world.read (·.factory f.factory) fun _ _ => rfl
  unfold Machine.build
  dsimp only [Fetching.rename]
  rw [hfactory]
  cases m.world.factory f.factory with
  | noShadow => exact h.buildEnds id f slot span _
  | scripted name gate outcomes builds =>
    obtain ⟨registry, factory, request, use, phase, number⟩ := f
    cases number with
    | some number => exact h.actOn id _ slot span name number _
    | none =>
      have hcounted := h.world.update (f := fun w => { w with
        factories := m.world.factories.setIfInBounds factory
          (.scripted name gate outcomes (builds + 1)) }) (fun _ _ => rfl) fun _ => rfl
      have hfactories : m'.world.factories = m.world.factories :=
        h.world.read World.factories fun _ _ => rfl
      have hreply : Reply.Alike (.building name builds request.config)
          (.building name builds (request.rename ρ).config) :=
        congrArg (Reply.building name builds) request.config.masked_rename
      have hemitted := (h.withWorld hcounted).emit .build hreply
      have hfocus := hemitted.setFocus id
        (.fetching ⟨registry, factory, request, use, phase, some builds⟩)
      dsimp only
      rw [hfactories]
      cases gate with
      | none => exact hfocus
      | some gate => exact hfocus.queueAt id gate

theorem fetchOn (h : Renamed ρ m m') (id : TaskId) (f : Fetching) :
    Renamed ρ (m.fetchOn id f) (m'.fetchOn id (f.rename ρ)) := by
  obtain ⟨registry, factory, request, use, phase, number⟩ := f
  cases phase with
  | building slot span => exact h.build id _ slot span
  | waiting slot =>
    exact h.takeNext id ⟨registry, factory, request, use, .waiting slot, number⟩
      (fun w fresh => Fetch.resume (w.registry registry) id request fresh slot)
      (fun w fresh => Fetch.resume (w.registry registry) id (request.rename ρ) fresh slot)
      fun hw fresh => Fetch.renamed_resume (hw.registry registry) id request fresh slot
  | closing slot mediator =>
    obtain ⟨hfailure, hclosed⟩ := h.world.closeHandle mediator.shadow
    have hnext := (h.withWorld hclosed).takeNext id
      ⟨registry, factory, request, use, .closing slot mediator, number⟩
      (fun w fresh => Fetch.closed (w.registry registry) id request fresh mediator
        (m.world.closeHandle mediator.shadow).1)
      (fun w fresh => Fetch.closed (w.registry registry) id (request.rename ρ) fresh
        (mediator.rename ρ) (m.world.closeHandle mediator.shadow).1)
      fun hw fresh => Fetch.renamed_closed (hw.registry registry) id request fresh mediator _
    unfold Machine.fetchOn
    dsimp only [Fetching.rename, FetchPhase.rename]
    rw [Mediator.shadow_rename]
    generalize m.world.closeHandle mediator.shadow = closed at hfailure hnext ⊢
    generalize m'.world.closeHandle mediator.shadow = closed' at hfailure hnext ⊢
    obtain ⟨failure, w⟩ := closed
    obtain ⟨failure', w'⟩ := closed'
    dsimp only at hfailure hnext ⊢
    subst hfailure
    exact hnext

end Machine.Renamed

end Scenario

end ShadowTraffic
