import ShadowTraffic.Proofs.Scenario.Guard

/-! # What the frames of a scenario depend on

Frames, and the bodies that were kept to run in them later, are touched by few steps. No command
touches them, but for those that change the context of the current call.
-/

namespace ShadowTraffic.Scenario

/-- The frames, and what is kept to run in them later. -/
structure Framing where
  frames : Array CallFrame
  callbacks : Dictionary Continuation
  futures : Dictionary Continuation

namespace World

def framing (w : World) : Framing where
  frames := w.frames
  callbacks := w.callbacks
  futures := w.futures

@[simp] theorem framing_take (w : World) (effects : List Effect) :
    (w.take effects).framing = w.framing := rfl

@[simp] theorem framing_takeStretch {α : Type} (w : World) (id : RegistryId) (s : Stretch α) :
    (w.takeStretch id s).framing = w.framing := rfl

@[simp] theorem framing_setHandle (w : World) (h : Handle) (s : HandleState) :
    (w.setHandle h s).framing = w.framing := rfl

@[simp] theorem framing_closeHandle (w : World) (h : Option Handle) :
    (w.closeHandle h).2.framing = w.framing := by
  cases h <;> rfl

@[simp] theorem framing_keepMediator (w : World) (name : Option String)
    (place : RegistryId × SlotId) : (w.keepMediator name place).framing = w.framing := by
  cases name <;> rfl

@[simp] theorem framing_tryEnter (w : World) (stack : StackId) (boundary : String)
    (policy : Policy) : (w.tryEnter stack boundary policy).2.framing = w.framing := rfl

@[simp] theorem framing_dropTicket (w : World) (stack : StackId) (t : Ticket) :
    (w.dropTicket stack t).framing = w.framing := rfl

theorem framing_foldl {α : Type} {f : World → α → World}
    (h : ∀ w a, (f w a).framing = w.framing) (list : List α) (w : World) :
    (list.foldl f w).framing = w.framing := by
  induction list generalizing w with
  | nil => rfl
  | cons a list ih => rw [List.foldl_cons, ih, h]

@[simp] theorem framing_sweep (w : World) (used : List RegistryId) :
    (w.sweep used).framing = w.framing := by
  refine framing_foldl (fun w id => ?_) _ w
  split <;> rfl

@[simp] theorem framing_cleanUp (w : World) (e : Ending) : (e.cleanUp w).framing = w.framing := by
  cases e with
  | guarded path stack t => exact framing_dropTicket w stack t
  | call path envelope =>
    unfold Ending.cleanUp
    dsimp only
    split
    · exact framing_dropTicket ..
    · rfl
  | _ => rfl

@[simp] theorem framing_finishRelease (id : RegistryId) (bound : Nat) (w : World)
    (o : ReleaseOutcome) : (finishRelease id bound w o).2.framing = w.framing := by
  induction bound generalizing w o with
  | zero => cases o <;> rfl
  | succ bound ih =>
    cases o with
    | done count => rfl
    | closing m rest count =>
      rw [finishRelease]
      dsimp only
      rw [ih, framing_takeStretch, framing_closeHandle]

@[simp] theorem framing_release (w : World) (id : RegistryId) :
    (w.release id).2.framing = w.framing := by
  unfold release
  dsimp only
  rw [framing_finishRelease]
  rfl

@[simp] theorem framing_invalidate (w : World) (id : RegistryId) (i : Identity) :
    (w.invalidate id i).2.framing = w.framing := by
  unfold invalidate
  dsimp only
  split
  · rfl
  · rw [framing_takeStretch, framing_closeHandle, framing_takeStretch]

end World

/-! ## Commands -/

namespace Act

variable {α β : Type} {act : Act α}

/-- An action that touches no frame and nothing that is kept to run in one. -/
structure Spares (act : Act α) : Prop where
  framing : ∀ w, (act.run w).2.framing = w.framing

theorem Reads.spares (h : Reads act) : Spares act := ⟨fun w => congrArg World.framing (h w)⟩

theorem Spares.bind {next : α → Act β} (h : Spares act) (hnext : ∀ a, Spares (next a)) :
    Spares (act >>= next) := by
  constructor
  intro w
  have hw := h.framing w
  rw [run_bind]
  generalize act.run w = result at hw ⊢
  obtain ⟨x, w'⟩ := result
  cases x with
  | error r => exact hw
  | ok a => exact ((hnext a).framing w').trans hw

/-- What is done with the world that was read may depend on it. -/
theorem Spares.of_world {next : World → Act α}
    (h : ∀ w, ((next w).run w).2.framing = w.framing) : Spares (Act.world >>= next) :=
  ⟨h⟩

/-- The world is replaced by one with the same frames. -/
theorem Spares.framing_set {w w' : World} {next : PUnit → Act α} (h : ∀ u, Spares (next u))
    (hw : w'.framing = w.framing) : ((set w' >>= next : Act α).run w).2.framing = w.framing :=
  ((h ()).framing w').trans hw

theorem spares_pure (a : α) : Spares (pure a) := ⟨fun _ => rfl⟩

theorem spares_arg (a : Arg α) : Spares (a : Act α) := Reads.spares (reads_arg a)

theorem spares_world : Spares Act.world := ⟨fun _ => rfl⟩

theorem spares_known (field : String) (names : World → Dictionary α) (name : Arg String) :
    Spares (Act.known field names name) :=
  Reads.spares (reads_known field names name)

theorem spares_modify {f : World → World} (h : ∀ w, (f w).framing = w.framing) :
    Spares (modify f) := ⟨h⟩

theorem spares_report (effects : List Effect) : Spares (Act.report effects) := ⟨fun _ => rfl⟩

theorem reads_propagator (name : Option String) : Reads (Act.propagator name) :=
  reads_known _ _ _

theorem reads_rules (name : Option String) : Reads (Act.rules name) :=
  (reads_propagator name).bind fun _ => reads_world.bind fun _ => reads_pure _

theorem spares_rules (name : Option String) : Spares (Act.rules name) :=
  Reads.spares (reads_rules name)

theorem spares_stack (here : Place) (name : Option String) : Spares (Act.stack here name) := by
  unfold Act.stack
  refine .of_world fun w => ?_
  split
  · rfl
  · rfl
  · split <;> rfl

end Act

open Act

namespace ContextCommand

theorem spares_named (name : Arg String) : Spares (named name) := spares_known ..

theorem spares_keep (name : String) (t : TrafficContext) : Spares (keep name t) := ⟨fun _ => rfl⟩

theorem spares_makeRoot (name : Arg String) (key : String) : Spares (makeRoot name key) :=
  (spares_arg name).bind fun _ => (Spares.mk fun _ => rfl).bind fun _ =>
    (spares_keep ..).bind fun _ => spares_pure _

theorem spares_run (c : ContextCommand) : Spares c.run := by
  cases c with
  | create name =>
    exact (spares_arg name).bind fun _ => (spares_keep ..).bind fun _ => spares_pure _
  | copy name source =>
    exact (spares_arg name).bind fun _ => (spares_known ..).bind fun _ =>
      (spares_keep ..).bind fun _ => spares_pure _
  | parse name value =>
    exact (spares_arg name).bind fun _ => (spares_arg value).bind fun _ =>
      (spares_keep ..).bind fun _ => spares_pure _
  | rootOf name propagator => exact (spares_rules _).bind fun _ => spares_makeRoot ..
  | root name key => exact spares_makeRoot ..
  | insert name key value =>
    exact (spares_named name).bind fun _ => (spares_arg key).bind fun _ =>
      (spares_arg name).bind fun _ => (spares_arg value).bind fun _ =>
        (spares_keep ..).bind fun _ => spares_pure _
  | remove name key =>
    exact (spares_named name).bind fun _ => (spares_arg key).bind fun _ =>
      (spares_arg name).bind fun _ => (spares_keep ..).bind fun _ => spares_pure _
  | get name key =>
    exact (spares_named name).bind fun _ => (spares_arg key).bind fun _ => spares_pure _
  | clear name =>
    exact (spares_named name).bind fun _ => (spares_arg name).bind fun _ =>
      (spares_keep ..).bind fun _ => spares_pure _
  | equal name other =>
    exact (spares_named name).bind fun _ => (spares_known ..).bind fun _ => spares_pure _
  | info name => exact (spares_named name).bind fun _ => spares_pure _

end ContextCommand

theorem MarkerCommand.spares_run (c : MarkerCommand) : Spares c.run := by
  have hnamed := ContextCommand.spares_named
  cases c with
  | create name recipe =>
    refine (spares_arg name).bind fun name => (spares_arg recipe).bind fun recipe => ?_
    split
    · exact spares_pure _
    · exact ⟨fun _ => rfl⟩
  | reload name recipe =>
    refine (spares_known ..).bind fun id => (spares_arg recipe).bind fun recipe => ?_
    split
    · exact spares_pure _
    · exact ⟨fun _ => rfl⟩
  | info name => exact (spares_rules name).bind fun _ => spares_pure _
  | mark name context =>
    exact (spares_rules name).bind fun _ => (hnamed context).bind fun _ =>
      (spares_arg context).bind fun _ => (ContextCommand.spares_keep ..).bind fun _ =>
        spares_pure _
  | refresh name context =>
    exact (spares_rules name).bind fun _ => (hnamed context).bind fun _ =>
      (spares_arg context).bind fun _ => (ContextCommand.spares_keep ..).bind fun _ =>
        spares_pure _
  | traceId name context =>
    exact (spares_rules name).bind fun _ => (hnamed context).bind fun _ => spares_pure _
  | detect name context resource =>
    exact (spares_rules name).bind fun _ => (hnamed context).bind fun _ => spares_pure _
  | evaluate name context resource =>
    exact (spares_rules name).bind fun _ => (hnamed context).bind fun _ => spares_pure _

namespace CarrierCommand

theorem spares_named (name : Arg String) : Spares (named name) := spares_known ..

theorem spares_keep (name : String) (c : Carrier) : Spares (keep name c) := ⟨fun _ => rfl⟩

theorem spares_injectInto (t : TrafficContext) (c : Carrier) : Spares (injectInto t c) :=
  (spares_report _).bind fun _ => spares_pure _

theorem spares_run (c : CarrierCommand) : Spares c.run := by
  have hcontext := ContextCommand.spares_named
  cases c with
  | create name kind entries =>
    refine (spares_arg name).bind fun _ => (spares_arg kind).bind fun kind => ?_
    split
    · exact (spares_keep ..).bind fun _ => spares_pure _
    · exact spares_pure _
  | set name key value =>
    refine (spares_named name).bind fun c => (spares_arg key).bind fun key =>
      (spares_arg value).bind fun value => ?_
    split
    · exact (spares_arg name).bind fun _ => (spares_keep ..).bind fun _ => spares_pure _
    · exact spares_pure _
  | get name key =>
    exact (spares_named name).bind fun _ => (spares_arg key).bind fun _ => spares_pure _
  | contents name => exact (spares_named name).bind fun _ => spares_pure _
  | append name key value =>
    refine (spares_named name).bind fun c => ?_
    split
    · exact ⟨fun _ => rfl⟩
    · refine (spares_arg key).bind fun key => (spares_arg value).bind fun value => ?_
      split
      · exact spares_pure _
      split
      · exact spares_pure _
      · exact (spares_arg name).bind fun _ => (spares_keep ..).bind fun _ => spares_pure _
  | inject propagator context carrier =>
    exact (spares_rules propagator).bind fun _ => (hcontext context).bind fun _ =>
      (spares_named carrier).bind fun _ => (spares_injectInto ..).bind fun _ =>
        (spares_arg carrier).bind fun _ => (spares_keep ..).bind fun _ => spares_pure _
  | propagate propagator context carrier kind =>
    exact (spares_rules propagator).bind fun _ => (hcontext context).bind fun _ =>
      (spares_arg carrier).bind fun _ => (spares_arg kind).bind fun _ =>
        (spares_injectInto ..).bind fun _ => (spares_keep ..).bind fun _ => spares_pure _
  | adopt propagator carrier context =>
    exact (spares_rules propagator).bind fun _ => (spares_named carrier).bind fun _ =>
      (spares_arg context).bind fun _ => (ContextCommand.spares_keep ..).bind fun _ =>
        spares_pure _

end CarrierCommand

namespace ScopeCommand

theorem spares_seen (stack : StackId) (boundary : String) (answer : Reply) :
    Spares (seen stack boundary answer) :=
  spares_world.bind fun _ => spares_pure _

theorem spares_dropNamed (t : Option (StackId × Ticket)) : Spares (dropNamed t) := by
  cases t <;> exact ⟨fun _ => rfl⟩

theorem spares_run (here : Place) (c : ScopeCommand) : Spares (c.run here) := by
  cases c with
  | tryEnter stack boundary policy =>
    refine (spares_stack here stack).bind fun stack => (spares_arg boundary).bind fun boundary =>
      (spares_arg policy).bind fun policy => .of_world fun w => ?_
    have hentered := World.framing_tryEnter w stack boundary policy
    generalize w.tryEnter stack boundary policy = result at hentered ⊢
    obtain ⟨entered, w'⟩ := result
    exact Spares.framing_set (fun _ => spares_seen ..) hentered
  | canLeave stack boundary policy =>
    refine (spares_stack here stack).bind fun stack => (spares_arg boundary).bind fun boundary =>
      (spares_arg policy).bind fun policy => spares_world.bind fun w => ?_
    generalize (w.scopes stack).canLeave boundary policy = result
    obtain ⟨mayLeave, scopes⟩ := result
    exact (spares_modify fun _ => by rfl).bind fun _ => spares_seen ..
  | leave stack boundary policy =>
    refine (spares_stack here stack).bind fun stack => (spares_arg boundary).bind fun boundary =>
      (spares_arg policy).bind fun policy => spares_world.bind fun w => ?_
    split
    · exact (spares_modify fun _ => by rfl).bind fun _ => spares_seen ..
    · exact (spares_report _).bind fun _ => spares_seen ..
  | state stack boundary =>
    exact (spares_stack here stack).bind fun _ => (spares_arg boundary).bind fun _ =>
      spares_seen ..
  | enter stack boundary policy ticket =>
    refine (spares_stack here stack).bind fun stack => (spares_arg boundary).bind fun boundary =>
      (spares_arg policy).bind fun policy => (spares_arg ticket).bind fun name =>
        .of_world fun w => ?_
    have hentered : (w.enter stack boundary policy).2.framing = w.framing :=
      World.framing_tryEnter w stack boundary policy
    generalize w.enter stack boundary policy = result at hentered ⊢
    obtain ⟨t, w'⟩ := result
    exact Spares.framing_set (fun _ => (spares_dropNamed _).bind fun _ => spares_seen ..) hentered
  | dropTicket ticket =>
    exact (spares_known ..).bind fun _ => (spares_arg ticket).bind fun _ =>
      (spares_modify fun _ => by rfl).bind fun _ => (spares_dropNamed _).bind fun _ => spares_pure _
  | share stack name =>
    exact (spares_stack here stack).bind fun _ => (spares_arg name).bind fun _ =>
      (spares_modify fun _ => by rfl).bind fun _ => spares_pure _

end ScopeCommand

namespace RegistryCommand

theorem spares_named (name : Arg String) : Spares (named name) := spares_known ..

theorem spares_keep (name : String) (id : RegistryId) : Spares (keep name id) := ⟨fun _ => rfl⟩

theorem spares_place (field : String) (name : Arg String) : Spares (place field name) :=
  spares_known ..

theorem spares_run (c : RegistryCommand) : Spares c.run := by
  cases c with
  | create name =>
    exact (spares_arg name).bind fun _ => spares_world.bind fun _ =>
      (spares_modify fun _ => by rfl).bind fun _ => (spares_keep ..).bind fun _ => spares_pure _
  | share name keptAs =>
    exact (spares_named name).bind fun _ => (spares_arg keptAs).bind fun _ =>
      (spares_keep ..).bind fun _ => spares_pure _
  | forget name =>
    exact (spares_arg name).bind fun _ => (spares_modify fun _ => by rfl).bind fun _ =>
      spares_pure _
  | size name =>
    exact (spares_named name).bind fun _ => spares_world.bind fun _ => spares_pure _
  | stats name =>
    exact spares_world.bind fun _ => (spares_named name).bind fun _ => spares_pure _
  | lookup name config keptAs =>
    refine (spares_named name).bind fun id => (spares_arg config).bind fun config => ?_
    split
    · exact spares_pure _
    · refine spares_world.bind fun w => ?_
      split
      · exact spares_pure _
      · exact (spares_modify fun _ => World.framing_keepMediator ..).bind fun _ =>
          spares_world.bind fun _ => spares_pure _
  | invalidate name config =>
    refine (spares_named name).bind fun id => (spares_arg config).bind fun config => ?_
    split
    · exact spares_pure _
    next i _ =>
      refine .of_world fun w => ?_
      have hsame := World.framing_invalidate w id i
      generalize w.invalidate id i = result at hsame ⊢
      obtain ⟨found, w'⟩ := result
      exact Spares.framing_set (fun _ => spares_pure _) hsame
  | release what =>
    have hreleased (id : RegistryId) : Spares (Act.world >>= fun w =>
        set (w.release id).2 >>= fun _ => pure (Reply.count (w.release id).1)) :=
      .of_world fun w => Spares.framing_set (fun _ => spares_pure _) (World.framing_release w id)
    cases what with
    | registry name => exact (spares_named name).bind hreleased
    | service name => exact (spares_known ..).bind fun s => hreleased s.registry
  | mediator name =>
    exact (spares_place ..).bind fun _ => spares_world.bind fun _ => spares_pure _
  | same a b => exact (spares_place ..).bind fun _ => (spares_place ..).bind fun _ => spares_pure _
  | isBuiltFrom name config =>
    exact (spares_place ..).bind fun _ => (spares_arg config).bind fun _ =>
      spares_world.bind fun _ => spares_pure _
  | factory name f =>
    exact (spares_arg name).bind fun _ => (spares_arg f).bind fun _ =>
      (spares_modify fun _ => by rfl).bind fun _ => spares_pure _
  | rows handle => exact spares_world.bind fun _ => spares_pure _

end RegistryCommand

namespace RouterCommand

theorem spares_named (name : Arg String) : Spares (named name) := spares_known ..

theorem spares_keep (name : String) (d : Dispatcher) : Spares (keep name d) :=
  spares_world.bind fun _ => (spares_modify fun _ => by rfl).bind fun _ => spares_pure _

theorem spares_change (name : Arg String) (f : Dispatcher → Dispatcher × List Effect) :
    Spares (change name f) := by
  refine (spares_named name).bind fun id => spares_world.bind fun w => ?_
  generalize f (w.dispatcher id) = result
  obtain ⟨d, effects⟩ := result
  exact (spares_modify fun _ => by rfl).bind fun _ => (spares_report _).bind fun _ => spares_pure _

theorem spares_keepService (name : String) (registry : RegistryId) (propagator : PropagatorId)
    (routing : RoutingSettings) (policy : Policy) :
    Spares (keepService name registry propagator routing policy) :=
  (spares_keep ..).bind fun _ => (RegistryCommand.spares_keep ..).bind fun _ =>
    spares_modify fun _ => by rfl

theorem spares_makeService (name : String) (recipe : ServiceRecipe) :
    Spares (makeService name recipe) := by
  cases recipe with
  | settings s =>
    refine (spares_arg s).bind fun s => ?_
    split
    · exact spares_pure _
    · refine .of_world fun w => ?_
      exact Spares.framing_set (fun _ => (spares_keepService ..).bind fun _ => spares_pure _) rfl
  | parts registry propagator routing policy =>
    exact (RegistryCommand.spares_named registry).bind fun _ => (spares_known ..).bind fun _ =>
      (spares_arg routing).bind fun _ => (spares_arg policy).bind fun _ =>
        (spares_keepService ..).bind fun _ => spares_pure _

theorem spares_run (c : RouterCommand) : Spares c.run := by
  cases c with
  | create name propagator routing =>
    exact (spares_arg name).bind fun _ => (spares_known ..).bind fun _ =>
      (spares_arg routing).bind fun _ => (spares_keep ..).bind fun _ => spares_pure _
  | setEnabled name enabled =>
    exact (spares_named name).bind fun _ => (spares_arg enabled).bind fun _ =>
      (spares_change ..).bind fun _ => spares_pure _
  | setWhitelist name resources =>
    exact (spares_named name).bind fun _ => (spares_arg resources).bind fun _ =>
      (spares_change ..).bind fun _ => spares_pure _
  | isWhitelisted name resource =>
    exact spares_world.bind fun _ => (spares_named name).bind fun _ =>
      (spares_arg resource).bind fun _ => spares_pure _
  | decide name marked hasShadow =>
    exact spares_world.bind fun _ => (spares_named name).bind fun _ =>
      (spares_arg marked).bind fun _ => (spares_arg hasShadow).bind fun _ => spares_pure _
  | service name recipe => exact (spares_arg name).bind fun _ => spares_makeService ..

end RouterCommand

theorem ReportCommand.spares_run (c : ReportCommand) : Spares c.run := by
  cases c with
  | metrics => exact spares_world.bind fun _ => spares_pure _
  | describeMetrics => exact (spares_report _).bind fun _ => spares_pure _
  | substitute recipe queries => exact (spares_arg recipe).bind fun _ => spares_pure _
  | factories => exact spares_pure _

/-- No command touches a frame, but for those on the current call. -/
theorem Command.spares_run (here : Place) (c : Command) (h : ∀ f, c ≠ .frame f) :
    Spares (c.run here) := by
  cases c with
  | context c => exact c.spares_run
  | marker c => exact c.spares_run
  | carrier c => exact c.spares_run
  | scope c => exact c.spares_run here
  | frame c => exact absurd rfl (h c)
  | registry c => exact c.spares_run
  | router c => exact c.spares_run
  | report c => exact c.spares_run

end ShadowTraffic.Scenario
