import ShadowTraffic.Proofs.Scenario.AlikeWorlds
import ShadowTraffic.Proofs.Scenario.Guard

/-! # Commands under other tokens

In worlds that are alike every command but a release answers the same, up to tokens behind the
stars, and leaves worlds that are alike. Commands without configurations do not look at anything in
which tokens occur.
-/

namespace ShadowTraffic.Scenario

namespace Act

variable {α β : Type} {ρ : TokenRenaming} {S : α → α → Prop} {T : β → β → Prop}
variable {act act' : Act α} {next next' : α → Act β}

/-- Both are refused for one reason, or both have answers that correspond. -/
inductive Answers (S : α → α → Prop) : Except Refusal α → Except Refusal α → Prop where
  | error (r : Refusal) : Answers S (.error r) (.error r)
  | ok {a a' : α} (h : S a a') : Answers S (.ok a) (.ok a')

/-- In worlds that are alike two actions have answers that correspond, and leave worlds alike. -/
structure Agree (ρ : TokenRenaming) (S : α → α → Prop) (act act' : Act α) : Prop where
  run : ∀ {w w'}, World.Renamed ρ w w' →
    Answers S (act.run w).1 (act'.run w').1 ∧ World.Renamed ρ (act.run w).2 (act'.run w').2

/-- An action with one answer in worlds that are alike. -/
abbrev Steady (ρ : TokenRenaming) (act : Act α) : Prop :=
  Agree ρ Eq act act

theorem Agree.bind (h : Agree ρ S act act')
    (hnext : ∀ a a', S a a' → Agree ρ T (next a) (next' a')) :
    Agree ρ T (act >>= next) (act' >>= next') := by
  constructor
  intro w w' hw
  obtain ⟨hanswers, hworld⟩ := h.run hw
  rw [run_bind, run_bind]
  generalize act.run w = result at hanswers hworld ⊢
  generalize act'.run w' = result' at hanswers hworld ⊢
  obtain ⟨x, v⟩ := result
  obtain ⟨x', v'⟩ := result'
  cases hanswers with
  | error r => exact ⟨.error r, hworld⟩
  | ok hsame => exact (hnext _ _ hsame).run hworld

/-- Both go on with one answer. -/
theorem Agree.bind_eq (h : Agree ρ Eq act act') (hnext : ∀ a, Agree ρ T (next a) (next' a)) :
    Agree ρ T (act >>= next) (act' >>= next') :=
  h.bind fun a _ ha => ha ▸ hnext a

theorem Steady.bind (h : Steady ρ act) (hnext : ∀ a, Agree ρ T (next a) (next' a)) :
    Agree ρ T (act >>= next) (act >>= next') :=
  h.bind_eq hnext

theorem agree_pure {a a' : α} (h : S a a') : Agree ρ S (pure a) (pure a') :=
  ⟨fun hw => ⟨.ok h, hw⟩⟩

theorem steady_pure (a : α) : Steady ρ (pure a) := agree_pure rfl

/-- An argument that corresponds to another one. -/
theorem agree_arg (f : α → α) (a : Arg α) :
    Agree ρ (fun a a' => a' = f a) (a : Act α) (a.map f : Arg α) := by
  constructor
  intro w w' hw
  cases a with
  | error r => exact ⟨.error r, hw⟩
  | ok a => exact ⟨.ok rfl, hw⟩

theorem steady_arg (a : Arg α) : Steady ρ (a : Act α) := by
  constructor
  intro w w' hw
  cases a with
  | error r => exact ⟨.error r, hw⟩
  | ok a => exact ⟨.ok rfl, hw⟩

theorem agree_world : Agree ρ (World.Renamed ρ) Act.world Act.world :=
  ⟨fun hw => ⟨.ok hw, hw⟩⟩

/-- What is done with the world that was read does not depend on the parts with tokens. -/
theorem agree_reading {next next' : World → Act α} (hput : ∀ w x, next' (w.put x) = next' w)
    (h : ∀ w, Agree ρ S (next w) (next' w)) :
    Agree ρ S (Act.world >>= next) (Act.world >>= next') :=
  agree_world.bind fun w w' hw => by
    rw [hw.read next' hput]
    exact h w

theorem agree_set {w w' : World} (h : World.Renamed ρ w w') :
    Agree ρ Eq (set w : Act PUnit) (set w') :=
  ⟨fun _ => ⟨.ok rfl, h⟩⟩

theorem agree_modify {f f' : World → World}
    (h : ∀ {w w'}, World.Renamed ρ w w' → World.Renamed ρ (f w) (f' w')) :
    Agree ρ Eq (modify f : Act PUnit) (modify f') :=
  ⟨fun hw => ⟨.ok rfl, h hw⟩⟩

/-- A change of the parts without tokens. -/
theorem steady_modify {f : World → World} (hput : ∀ w x, f (w.put x) = (f w).put x)
    (hhidden : ∀ w, (f w).hidden = w.hidden) : Steady ρ (modify f : Act PUnit) :=
  agree_modify fun hw => hw.update hput hhidden

theorem agree_known (field : String) {names : World → Dictionary α} {f : α → α}
    (h : ∀ {w w'}, World.Renamed ρ w w' →
      ∀ name, (names w').get? name = ((names w).get? name).map f) (name : Arg String) :
    Agree ρ (fun a a' => a' = f a) (Act.known field names name) (Act.known field names name) := by
  refine agree_world.bind fun w w' hw => (steady_arg name).bind fun name => ?_
  rw [h hw]
  cases (names w).get? name with
  | none => exact ⟨fun hv => ⟨.error _, hv⟩⟩
  | some a => exact agree_pure rfl

theorem steady_known (field : String) {names : World → Dictionary α}
    (h : ∀ w x, names (w.put x) = names w) (name : Arg String) :
    Steady ρ (Act.known field names name) := by
  refine agree_reading (fun w x => by rw [h]) fun w => (steady_arg name).bind fun name => ?_
  split
  · exact steady_pure _
  · exact ⟨fun hw => ⟨.error _, hw⟩⟩

theorem steady_report (effects : List Effect) : Steady ρ (Act.report effects) :=
  agree_modify fun hw => hw.take rfl

theorem steady_propagator (name : Option String) : Steady ρ (Act.propagator name) :=
  steady_known _ (fun _ _ => rfl) _

theorem steady_rules (name : Option String) : Steady ρ (Act.rules name) :=
  (steady_propagator name).bind fun _ => agree_reading (fun _ _ => rfl) fun _ => steady_pure _

theorem steady_stack (here : Place) (name : Option String) : Steady ρ (Act.stack here name) := by
  unfold Act.stack
  refine agree_world.bind fun w w' hw => ?_
  have hcurrent : w'.currentStack here = w.currentStack here :=
    hw.read (·.currentStack here) fun _ _ => rfl
  have hnames : w'.stackNames = w.stackNames := hw.read World.stackNames fun _ _ => rfl
  have hnew : w'.newStack.1 = w.newStack.1 := hw.read (·.newStack.1) fun _ _ => rfl
  have hworld : World.Renamed ρ w.newStack.2 w'.newStack.2 :=
    hw.update (f := (·.newStack.2)) (fun _ _ => rfl) fun _ => rfl
  rw [hcurrent, hnames]
  split
  · exact steady_pure _
  · exact steady_pure _
  · split
    · exact steady_pure _
    next name _ _ _ =>
      generalize w.newStack = made at hnew hworld ⊢
      generalize w'.newStack = made' at hnew hworld ⊢
      obtain ⟨id, v⟩ := made
      obtain ⟨id', v'⟩ := made'
      dsimp only at hnew hworld ⊢
      rw [hnew]
      refine Agree.bind_eq (agree_set ?_) fun _ => steady_pure _
      exact hworld.update (f := fun v => { v with stackNames := v.stackNames.insert name id })
        (fun _ _ => rfl) fun _ => rfl

end Act

open Act

variable {ρ : TokenRenaming}

/-! ## Commands without configurations -/

namespace ContextCommand

theorem steady_named (name : Arg String) : Steady ρ (named name) :=
  steady_known _ (fun _ _ => rfl) _

theorem steady_keep (name : String) (t : TrafficContext) : Steady ρ (keep name t) :=
  steady_modify (fun _ _ => rfl) fun _ => rfl

theorem steady_drawTraceId : Steady ρ drawTraceId :=
  agree_reading (fun _ _ => rfl) fun _ =>
    Steady.bind (steady_modify (fun _ _ => rfl) fun _ => rfl) fun _ => steady_pure _

theorem steady_makeRoot (name : Arg String) (key : String) : Steady ρ (makeRoot name key) :=
  (steady_arg name).bind fun _ => steady_drawTraceId.bind fun _ =>
    (steady_keep ..).bind fun _ => steady_pure _

theorem steady_run (c : ContextCommand) : Steady ρ c.run := by
  cases c with
  | create name =>
    exact (steady_arg name).bind fun _ => (steady_keep ..).bind fun _ => steady_pure _
  | copy name source =>
    exact (steady_arg name).bind fun _ => (steady_known _ (fun _ _ => rfl) source).bind fun _ =>
      (steady_keep ..).bind fun _ => steady_pure _
  | parse name value =>
    exact (steady_arg name).bind fun _ => (steady_arg value).bind fun _ =>
      (steady_keep ..).bind fun _ => steady_pure _
  | rootOf name propagator => exact (steady_rules _).bind fun _ => steady_makeRoot ..
  | root name key => exact steady_makeRoot ..
  | insert name key value =>
    exact (steady_named name).bind fun _ => (steady_arg key).bind fun _ =>
      (steady_arg name).bind fun _ => (steady_arg value).bind fun _ =>
        (steady_keep ..).bind fun _ => steady_pure _
  | remove name key =>
    exact (steady_named name).bind fun _ => (steady_arg key).bind fun _ =>
      (steady_arg name).bind fun _ => (steady_keep ..).bind fun _ => steady_pure _
  | get name key =>
    exact (steady_named name).bind fun _ => (steady_arg key).bind fun _ => steady_pure _
  | clear name =>
    exact (steady_named name).bind fun _ => (steady_arg name).bind fun _ =>
      (steady_keep ..).bind fun _ => steady_pure _
  | equal name other =>
    exact (steady_named name).bind fun _ => (steady_known _ (fun _ _ => rfl) other).bind fun _ =>
      steady_pure _
  | info name => exact (steady_named name).bind fun _ => steady_pure _

end ContextCommand

theorem MarkerCommand.steady_run (c : MarkerCommand) : Steady ρ c.run := by
  have hnamed (name : Arg String) : Steady ρ (ContextCommand.named name) :=
    ContextCommand.steady_named name
  cases c with
  | create name recipe =>
    refine (steady_arg name).bind fun name => (steady_arg recipe).bind fun recipe => ?_
    split
    · exact steady_pure _
    · exact Steady.bind (steady_modify (fun _ _ => rfl) fun _ => rfl) fun _ => steady_pure _
  | reload name recipe =>
    refine (steady_propagator name).bind fun id => (steady_arg recipe).bind fun recipe => ?_
    split
    · exact steady_pure _
    · exact Steady.bind (steady_modify (fun _ _ => rfl) fun _ => rfl) fun _ =>
        (steady_report _).bind fun _ => steady_pure _
  | info name => exact (steady_rules name).bind fun _ => steady_pure _
  | mark name context =>
    exact (steady_rules name).bind fun _ => (hnamed context).bind fun _ =>
      (steady_arg context).bind fun _ => (ContextCommand.steady_keep ..).bind fun _ =>
        steady_pure _
  | refresh name context =>
    exact (steady_rules name).bind fun _ => (hnamed context).bind fun _ =>
      (steady_arg context).bind fun _ => (ContextCommand.steady_keep ..).bind fun _ =>
        steady_pure _
  | traceId name context =>
    exact (steady_rules name).bind fun _ => (hnamed context).bind fun _ => steady_pure _
  | detect name context resource =>
    exact (steady_rules name).bind fun _ => (hnamed context).bind fun _ => steady_pure _
  | evaluate name context resource =>
    exact (steady_rules name).bind fun _ => (hnamed context).bind fun _ => steady_pure _

namespace CarrierCommand

theorem steady_named (name : Arg String) : Steady ρ (named name) :=
  steady_known _ (fun _ _ => rfl) _

theorem steady_keep (name : String) (c : Carrier) : Steady ρ (keep name c) :=
  steady_modify (fun _ _ => rfl) fun _ => rfl

theorem steady_injectInto (t : TrafficContext) (c : Carrier) : Steady ρ (injectInto t c) :=
  (steady_report _).bind fun _ => steady_pure _

theorem steady_run (c : CarrierCommand) : Steady ρ c.run := by
  have hcontext (name : Arg String) : Steady ρ (ContextCommand.named name) :=
    ContextCommand.steady_named name
  cases c with
  | create name kind entries =>
    refine (steady_arg name).bind fun _ => (steady_arg kind).bind fun kind => ?_
    split
    · exact (steady_keep ..).bind fun _ => steady_pure _
    · exact steady_pure _
  | set name key value =>
    refine (steady_named name).bind fun c => (steady_arg key).bind fun key =>
      (steady_arg value).bind fun value => ?_
    split
    · exact (steady_arg name).bind fun _ => (steady_keep ..).bind fun _ => steady_pure _
    · exact steady_pure _
  | get name key =>
    exact (steady_named name).bind fun _ => (steady_arg key).bind fun _ => steady_pure _
  | contents name => exact (steady_named name).bind fun _ => steady_pure _
  | append name key value =>
    refine (steady_named name).bind fun c => ?_
    split
    · exact ⟨fun hw => ⟨.error _, hw⟩⟩
    · refine (steady_arg key).bind fun key => (steady_arg value).bind fun value => ?_
      split
      · exact steady_pure _
      split
      · exact steady_pure _
      · exact (steady_arg name).bind fun _ => (steady_keep ..).bind fun _ => steady_pure _
  | inject propagator context carrier =>
    exact (steady_rules propagator).bind fun _ => (hcontext context).bind fun _ =>
      (steady_named carrier).bind fun _ => (steady_injectInto ..).bind fun _ =>
        (steady_arg carrier).bind fun _ => (steady_keep ..).bind fun _ => steady_pure _
  | propagate propagator context carrier kind =>
    exact (steady_rules propagator).bind fun _ => (hcontext context).bind fun _ =>
      (steady_arg carrier).bind fun _ => (steady_arg kind).bind fun _ =>
        (steady_injectInto ..).bind fun _ => (steady_keep ..).bind fun _ => steady_pure _
  | adopt propagator carrier context =>
    exact (steady_rules propagator).bind fun _ => (steady_named carrier).bind fun _ =>
      (steady_arg context).bind fun _ => (ContextCommand.steady_keep ..).bind fun _ =>
        steady_pure _

end CarrierCommand

namespace ScopeCommand

theorem steady_seen (stack : StackId) (boundary : String) (answer : Reply) :
    Steady ρ (seen stack boundary answer) :=
  agree_reading (fun _ _ => rfl) fun _ => steady_pure _

theorem steady_dropNamed (t : Option (StackId × Ticket)) : Steady ρ (dropNamed t) := by
  cases t with
  | none => exact steady_pure _
  | some t => exact agree_modify fun hw => hw.dropTicket t.1 t.2

theorem steady_run (here : Place) (c : ScopeCommand) : Steady ρ (c.run here) := by
  cases c with
  | tryEnter stack boundary policy =>
    refine (steady_stack here stack).bind fun stack => (steady_arg boundary).bind fun boundary =>
      (steady_arg policy).bind fun policy => agree_world.bind fun w w' hw => ?_
    obtain ⟨hentered, hworld⟩ := hw.tryEnter stack boundary policy
    generalize w.tryEnter stack boundary policy = result at hentered hworld ⊢
    generalize w'.tryEnter stack boundary policy = result' at hentered hworld ⊢
    obtain ⟨entered, v⟩ := result
    obtain ⟨entered', v'⟩ := result'
    dsimp only at hentered hworld ⊢
    rw [hentered]
    exact (agree_set hworld).bind_eq fun _ => steady_seen ..
  | canLeave stack boundary policy =>
    refine (steady_stack here stack).bind fun stack => (steady_arg boundary).bind fun boundary =>
      (steady_arg policy).bind fun policy => agree_reading (fun _ _ => rfl) fun w => ?_
    generalize (w.scopes stack).canLeave boundary policy = result
    obtain ⟨mayLeave, scopes⟩ := result
    exact Steady.bind (steady_modify (fun _ _ => rfl) fun _ => rfl) fun _ => steady_seen ..
  | leave stack boundary policy =>
    refine (steady_stack here stack).bind fun stack => (steady_arg boundary).bind fun boundary =>
      (steady_arg policy).bind fun policy => agree_reading (fun _ _ => rfl) fun w => ?_
    split
    · exact Steady.bind (steady_modify (fun _ _ => rfl) fun _ => rfl) fun _ => steady_seen ..
    · exact (steady_report _).bind fun _ => steady_seen ..
  | state stack boundary =>
    exact (steady_stack here stack).bind fun _ => (steady_arg boundary).bind fun _ =>
      steady_seen ..
  | enter stack boundary policy ticket =>
    refine (steady_stack here stack).bind fun stack => (steady_arg boundary).bind fun boundary =>
      (steady_arg policy).bind fun policy => (steady_arg ticket).bind fun name =>
        agree_world.bind fun w w' hw => ?_
    obtain ⟨hentered, hworld⟩ := hw.enter stack boundary policy
    generalize w.enter stack boundary policy = result at hentered hworld ⊢
    generalize w'.enter stack boundary policy = result' at hentered hworld ⊢
    obtain ⟨t, v⟩ := result
    obtain ⟨t', v'⟩ := result'
    dsimp only at hentered hworld ⊢
    have htickets : v'.tickets = v.tickets := hworld.read World.tickets fun _ _ => rfl
    rw [hentered, htickets]
    refine Agree.bind_eq (agree_set ?_) fun _ => (steady_dropNamed _).bind fun _ => steady_seen ..
    exact hworld.update (f := fun u => { u with tickets := v.tickets.insert name (stack, t) })
      (fun _ _ => rfl) fun _ => rfl
  | dropTicket ticket =>
    exact (steady_known _ (fun _ _ => rfl) ticket).bind fun _ => (steady_arg ticket).bind fun _ =>
      Steady.bind (steady_modify (fun _ _ => rfl) fun _ => rfl) fun _ =>
        (steady_dropNamed _).bind fun _ => steady_pure _
  | share stack name =>
    exact (steady_stack here stack).bind fun _ => (steady_arg name).bind fun _ =>
      Steady.bind (steady_modify (fun _ _ => rfl) fun _ => rfl) fun _ => steady_pure _

end ScopeCommand

theorem FrameCommand.steady_run (here : Place) (c : FrameCommand) : Steady ρ (c.run here) := by
  have hset (t : TrafficContext) : Steady ρ (modify (·.setCurrent here t) : Act PUnit) := by
    refine steady_modify (fun w x => ?_) fun w => ?_
    · unfold World.setCurrent
      cases here.frame <;> rfl
    · unfold World.setCurrent
      cases here.frame <;> rfl
  cases c with
  | inFrame => exact agree_reading (fun _ _ => rfl) fun _ => steady_pure _
  | current keptAs =>
    refine agree_reading (fun _ _ => rfl) fun w => ?_
    dsimp only
    split
    · exact (ContextCommand.steady_keep ..).bind fun _ => steady_pure _
    · exact steady_pure _
  | clear =>
    exact (hset {}).bind fun _ => agree_reading (fun _ _ => rfl) fun _ => steady_pure _
  | update change =>
    refine agree_reading (fun _ _ => rfl) fun w => ?_
    split
    · exact steady_pure _
    · refine (steady_rules none).bind fun r => ?_
      exact (hset _).bind fun _ => steady_pure _

namespace RouterCommand

theorem steady_named (name : Arg String) : Steady ρ (named name) :=
  steady_known _ (fun _ _ => rfl) _

theorem steady_keep (name : String) (d : Dispatcher) : Steady ρ (keep name d) :=
  agree_reading (fun _ _ => rfl) fun _ =>
    Steady.bind (steady_modify (fun _ _ => rfl) fun _ => rfl) fun _ => steady_pure _

theorem steady_change (name : Arg String) (f : Dispatcher → Dispatcher × List Effect) :
    Steady ρ (change name f) := by
  refine (steady_named name).bind fun id => agree_reading (fun _ _ => rfl) fun w => ?_
  generalize f (w.dispatcher id) = result
  obtain ⟨d, effects⟩ := result
  exact Steady.bind (steady_modify (fun _ _ => rfl) fun _ => rfl) fun _ =>
    (steady_report _).bind fun _ => steady_pure _

theorem steady_keepService (name : String) (registry : RegistryId) (propagator : PropagatorId)
    (routing : RoutingSettings) (policy : Policy) :
    Steady ρ (keepService name registry propagator routing policy) :=
  (steady_keep ..).bind fun _ =>
    Steady.bind (steady_modify (fun _ _ => rfl) fun _ => rfl) fun _ =>
      steady_modify (fun _ _ => rfl) fun _ => rfl

theorem steady_makeService (name : String) (recipe : ServiceRecipe) :
    Steady ρ (makeService name recipe) := by
  cases recipe with
  | settings s =>
    refine (steady_arg s).bind fun s => ?_
    split
    · exact steady_pure _
    next r _ =>
      refine agree_world.bind fun w w' hw => ?_
      have hsize : w'.registries.size = w.registries.size := hw.size
      have hpropagators : w'.propagators = w.propagators := hw.read World.propagators fun _ _ => rfl
      rw [hsize, hpropagators]
      refine Agree.bind_eq (agree_set ?_) fun _ =>
        (steady_keepService ..).bind fun _ => steady_pure _
      exact hw.newRegistry.update (f := fun v => { v with propagators := w.propagators.push r })
        (fun _ _ => rfl) fun _ => rfl
  | parts registry propagator routing policy =>
    exact (steady_known _ (fun _ _ => rfl) registry).bind fun _ =>
      (steady_propagator propagator).bind fun _ => (steady_arg routing).bind fun _ =>
        (steady_arg policy).bind fun _ => (steady_keepService ..).bind fun _ => steady_pure _

theorem steady_run (c : RouterCommand) : Steady ρ c.run := by
  cases c with
  | create name propagator routing =>
    exact (steady_arg name).bind fun _ => (steady_propagator propagator).bind fun _ =>
      (steady_arg routing).bind fun _ => (steady_keep ..).bind fun _ => steady_pure _
  | setEnabled name enabled =>
    exact (steady_named name).bind fun _ => (steady_arg enabled).bind fun _ =>
      (steady_change ..).bind fun _ => steady_pure _
  | setWhitelist name resources =>
    exact (steady_named name).bind fun _ => (steady_arg resources).bind fun _ =>
      (steady_change ..).bind fun _ => steady_pure _
  | isWhitelisted name resource =>
    exact agree_reading (fun _ _ => rfl) fun _ => (steady_named name).bind fun _ =>
      (steady_arg resource).bind fun _ => steady_pure _
  | decide name marked hasShadow =>
    exact agree_reading (fun _ _ => rfl) fun _ => (steady_named name).bind fun _ =>
      (steady_arg marked).bind fun _ => (steady_arg hasShadow).bind fun _ => steady_pure _
  | service name recipe => exact (steady_arg name).bind fun _ => steady_makeService ..

end RouterCommand

theorem ReportCommand.steady_run (c : ReportCommand) : Steady ρ c.run := by
  cases c with
  | metrics => exact agree_reading (fun _ _ => rfl) fun _ => steady_pure _
  | describeMetrics => exact (steady_report _).bind fun _ => steady_pure _
  | substitute recipe queries => exact (steady_arg recipe).bind fun _ => steady_pure _
  | factories => exact steady_pure _

/-! ## Commands on registries -/

theorem Act.Steady.alike {act : Act Reply} (h : Steady ρ act) : Agree ρ Reply.Alike act act := by
  constructor
  intro w w' hw
  obtain ⟨hanswers, hworld⟩ := h.run hw
  refine ⟨?_, hworld⟩
  generalize (act.run w).1 = x at hanswers ⊢
  generalize (act.run w').1 = x' at hanswers ⊢
  cases hanswers with
  | error r => exact .error r
  | ok hsame => exact .ok (congrArg Reply.masked hsame.symm)

namespace RegistryCommand

theorem steady_named (name : Arg String) : Steady ρ (named name) :=
  steady_known _ (fun _ _ => rfl) _

theorem steady_keep (name : String) (id : RegistryId) : Steady ρ (keep name id) :=
  steady_modify (fun _ _ => rfl) fun _ => rfl

theorem steady_place (field : String) (name : Arg String) : Steady ρ (place field name) :=
  steady_known _ (fun _ _ => rfl) _

/-- A mediator is answered. -/
theorem agree_mediator (place : RegistryId × SlotId) :
    Agree ρ Reply.Alike (Act.world >>= fun w => pure (.mediator (w.mediator? place)))
      (Act.world >>= fun w => pure (.mediator (w.mediator? place))) := by
  refine agree_world.bind fun w w' hw => agree_pure ?_
  rw [hw.mediator?]
  simp only [Reply.Alike, Reply.masked, Option.map_map, Function.comp_def, Mediator.masked_rename]

theorem agree_run (c : RegistryCommand) (h : ∀ what, c ≠ .release what) :
    Agree ρ Reply.Alike c.run (c.rename ρ).run := by
  cases c with
  | create name =>
    refine (steady_arg name).bind fun name => agree_world.bind fun w w' hw => ?_
    have hsize : w'.registries.size = w.registries.size := hw.size
    rw [hsize]
    exact Agree.bind_eq (agree_modify fun hv => hv.newRegistry) fun _ =>
      (steady_keep ..).bind fun _ => agree_pure rfl
  | share name keptAs =>
    exact (steady_named name).bind fun _ => (steady_arg keptAs).bind fun _ =>
      (steady_keep ..).bind fun _ => agree_pure rfl
  | forget name =>
    exact (steady_arg name).bind fun _ =>
      Steady.bind (steady_modify (fun _ _ => rfl) fun _ => rfl) fun _ => agree_pure rfl
  | size name =>
    refine (steady_named name).bind fun id => agree_world.bind fun w w' hw => ?_
    rw [(hw.registry id).size]
    exact agree_pure rfl
  | stats name =>
    refine agree_world.bind fun w w' hw => (steady_named name).bind fun id => ?_
    dsimp only
    rw [(hw.registry id).size, (hw.registry id).active, (hw.registry id).stats]
    exact agree_pure rfl
  | lookup name config keptAs =>
    refine (steady_named name).bind fun id => (agree_arg (Descriptor.rename ρ) config).bind ?_
    rintro config _ rfl
    rw [Descriptor.resolve_rename]
    cases config.resolve with
    | error e => exact agree_pure rfl
    | ok i =>
      refine agree_world.bind fun w w' hw => ?_
      rw [(hw.registry id).lookup]
      cases (w.registry id).lookup i with
      | none => exact agree_pure rfl
      | some slot =>
        exact Agree.bind_eq (agree_modify fun hv => hv.keepMediator keptAs (id, slot)) fun _ =>
          agree_mediator (id, slot)
  | invalidate name config =>
    refine (steady_named name).bind fun id => (agree_arg (Descriptor.rename ρ) config).bind ?_
    rintro config _ rfl
    rw [Descriptor.resolve_rename]
    cases config.resolve with
    | error e => exact agree_pure rfl
    | ok i =>
      refine agree_world.bind fun w w' hw => ?_
      obtain ⟨hfound, hworld⟩ := hw.invalidate id i
      generalize w.invalidate id i = result at hfound hworld ⊢
      generalize w'.invalidate id (i.rename ρ) = result' at hfound hworld ⊢
      obtain ⟨found, v⟩ := result
      obtain ⟨found', v'⟩ := result'
      dsimp only at hfound hworld ⊢
      rw [hfound]
      exact (agree_set hworld).bind_eq fun _ => agree_pure rfl
  | release what => exact absurd rfl (h what)
  | mediator name => exact (steady_place ..).bind fun place => agree_mediator place
  | same a b =>
    exact (steady_place ..).bind fun _ => (steady_place ..).bind fun _ => agree_pure rfl
  | isBuiltFrom name config =>
    refine (steady_place ..).bind fun place => (agree_arg (Descriptor.rename ρ) config).bind ?_
    rintro config _ rfl
    refine agree_world.bind fun w w' hw => agree_pure ?_
    rw [hw.mediator?, Option.any_map]
    simp only [Mediator.builtFrom_rename]
  | factory name f =>
    exact (steady_arg name).bind fun _ => (steady_arg f).bind fun _ =>
      Steady.bind (steady_modify (fun _ _ => rfl) fun _ => rfl) fun _ => agree_pure rfl
  | rows handle => exact agree_reading (fun _ _ => rfl) fun _ => agree_pure rfl

end RegistryCommand

/-- Every command but a release answers the same, up to tokens behind the stars. -/
theorem Command.agree_run (here : Place) (c : Command) (h : ∀ what, c ≠ .registry (.release what)) :
    Agree ρ Reply.Alike (c.run here) ((c.rename ρ).run here) := by
  cases c with
  | context c => exact c.steady_run.alike
  | marker c => exact c.steady_run.alike
  | carrier c => exact c.steady_run.alike
  | scope c => exact (c.steady_run here).alike
  | frame c => exact (c.steady_run here).alike
  | registry c => exact c.agree_run fun what hc => h what (congrArg Command.registry hc)
  | router c => exact c.steady_run.alike
  | report c => exact c.steady_run.alike

end ShadowTraffic.Scenario
