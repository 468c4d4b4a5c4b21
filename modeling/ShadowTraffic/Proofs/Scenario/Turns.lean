import ShadowTraffic.Proofs.Scenario.FrameLog
import ShadowTraffic.Proofs.Scenario.Framing
import ShadowTraffic.Proofs.Scenario.Going

/-! # Turns of tasks

Seen from the frames, a turn of a task leaves some of the bodies that the task is inside of, or
begins one more, or only goes on. Bodies of other tasks keep the frames they run in.
-/

namespace ShadowTraffic.Scenario

namespace Machine

/-- The frames of the bodies that a task is inside of, innermost first; a body without a frame of
its own runs in the one around it. -/
def bodies (m : Machine) (id : TaskId) : List (Option FrameId) :=
  (m.task id).activations.map (·.frame)

variable {m m' m'' : Machine} {id j : TaskId}

theorem frame_place (m : Machine) (id : TaskId) :
    (m.place id).frame = (m.bodies id).findSome? fun frame => frame := by
  rw [bodies, List.findSome?_map]
  rfl

theorem task_of_size_le (h : m.tasks.size ≤ id) :
    m.task id = { activations := [], ended := some .done } := by
  rw [task, Array.getElem?_eq_none h]
  rfl

theorem bodies_of_size_le (h : m.tasks.size ≤ id) : m.bodies id = [] := by
  rw [bodies, task_of_size_le h]
  rfl

theorem lt_size_of_activations {a : Activation} {outer : List Activation}
    (h : (m.task id).activations = a :: outer) : id < m.tasks.size := by
  by_contra hsize
  rw [task_of_size_le (Nat.le_of_not_lt hsize)] at h
  cases h

/-! ## Changing a task -/

@[simp] theorem size_tasks_modifyTask (m : Machine) (id : TaskId) (f : Task → Task) :
    (m.modifyTask id f).tasks.size = m.tasks.size :=
  Array.size_modify

theorem task_modifyTask_self (h : id < m.tasks.size) (f : Task → Task) :
    (m.modifyTask id f).task id = f (m.task id) := by
  have hid : m.tasks[id]? = some m.tasks[id] := Array.getElem?_eq_getElem h
  simp [task, modifyTask, Array.getElem?_modify, hid]

theorem task_modifyTask_ne (h : j ≠ id) (f : Task → Task) :
    (m.modifyTask id f).task j = m.task j := by
  simp [task, modifyTask, Array.getElem?_modify, h.symm]

theorem bodies_modifyTask_ne (h : j ≠ id) (f : Task → Task) :
    (m.modifyTask id f).bodies j = m.bodies j := by
  rw [bodies, task_modifyTask_ne h, bodies]

theorem bodies_push (h : id < m.tasks.size) (a : Activation) :
    (m.push id a).bodies id = a.frame :: m.bodies id := by
  rw [bodies, push, task_modifyTask_self h]
  rfl

/-! ## Nothing that matters to frames -/

/-- Neither the frames nor the bodies in them are touched. -/
structure Same (m m' : Machine) : Prop where
  framing : m'.world.framing = m.world.framing
  size : m'.tasks.size = m.tasks.size
  bodies : ∀ id, m'.bodies id = m.bodies id

theorem Same.refl (m : Machine) : Same m m := ⟨rfl, rfl, fun _ => rfl⟩

theorem Same.trans (h : Same m m') (h' : Same m' m'') : Same m m'' where
  framing := h'.framing.trans h.framing
  size := h'.size.trans h.size
  bodies id := (h'.bodies id).trans (h.bodies id)

theorem Same.frame_place (h : Same m m') (id : TaskId) :
    (m'.place id).frame = (m.place id).frame := by
  rw [Machine.frame_place, h.bodies, Machine.frame_place]

theorem Same.of_tasks (hframing : m'.world.framing = m.world.framing)
    (htasks : m'.tasks = m.tasks) : Same m m' where
  framing := hframing
  size := by rw [htasks]
  bodies id := by rw [Machine.bodies, task_congr htasks, Machine.bodies]

/-- The world is replaced by one with the same frames. -/
theorem Same.of_world (m : Machine) {w : World} (h : w.framing = m.world.framing) :
    Same m { m with world := w } :=
  .of_tasks h rfl

theorem Same.modifyTask (m : Machine) (id : TaskId) {f : Task → Task}
    (hf : ∀ t, (f t).activations.map (·.frame) = t.activations.map (·.frame)) :
    Same m (m.modifyTask id f) where
  framing := rfl
  size := size_tasks_modifyTask ..
  bodies j := by
    by_cases hj : j = id
    · subst hj
      by_cases hsize : j < m.tasks.size
      · rw [Machine.bodies, task_modifyTask_self hsize, hf, Machine.bodies]
      · have hle := Nat.le_of_not_lt hsize
        rw [bodies_of_size_le hle, bodies_of_size_le (by rwa [size_tasks_modifyTask])]
    · exact bodies_modifyTask_ne hj f

theorem same_setFocus (m : Machine) (id : TaskId) (focus : Focus) : Same m (m.setFocus id focus) :=
  .modifyTask m id fun _ => rfl

theorem same_answer (m : Machine) (path : Path) (reply : Reply) : Same m (m.answer path reply) :=
  .of_tasks (World.framing_sweep ..) rfl

theorem same_emit (m : Machine) (origin : Origin) (reply : Reply) :
    Same m (m.emit origin reply) :=
  .of_tasks (World.framing_sweep ..) rfl

theorem same_suspend (m : Machine) : Same m m.suspend := .of_tasks rfl rfl

theorem same_wakeAll (m : Machine) (ids : List TaskId) : Same m (m.wakeAll ids) := by
  obtain ⟨ready, h⟩ := wakeAll_eq m ids
  rw [h]
  exact .of_tasks rfl rfl

theorem same_queueAt (m : Machine) (id : TaskId) (gate : String) : Same m (m.queueAt id gate) := by
  unfold queueAt
  dsimp only
  split
  · exact .refl m
  · exact .of_tasks rfl rfl

/-! ## Calls and look-ups -/

theorem map_frame_setPhase (phase : DispatchPhase String String) (activations : List Activation) :
    (setPhase phase activations).map (·.frame) = activations.map (·.frame) := by
  cases activations with
  | nil => rfl
  | cons a rest =>
    unfold setPhase
    dsimp only
    split <;> rfl

theorem same_enterPhase (m : Machine) (id : TaskId) (path : Path) (business : Handle)
    (phase : DispatchPhase String String) : Same m (m.enterPhase id path business phase) := by
  have hentered := Same.modifyTask m id (f := fun t =>
    { t with activations := setPhase phase t.activations, focus := .stepping })
    fun t => map_frame_setPhase phase t.activations
  unfold enterPhase
  dsimp only
  split
  · exact hentered.trans (same_emit ..)
  · exact hentered

theorem same_found (m : Machine) (id : TaskId) (mediator : Mediator) :
    Same m (m.found id mediator) := by
  unfold found
  split
  next path e _ _ _ _ _ _ _ =>
    generalize (m.world.dispatcher e.dispatcher).found mediator (m.place id).span = found
    obtain ⟨phase, effects⟩ := found
    have htaken : Same m (m.take effects) := .of_world m rfl
    exact htaken.trans (same_enterPhase (m.take effects) id path e.business phase)
  · exact .refl m

theorem same_takeFetch (m : Machine) (id : TaskId) (f : Fetching) (s : Stretch FetchOutcome) :
    Same m (m.takeFetch id f s) := by
  unfold takeFetch
  dsimp only
  have htaken : Same m { m with world := m.world.takeStretch f.registry s } := .of_world m rfl
  refine (htaken.trans (same_wakeAll _ s.woken)).trans ?_
  generalize wakeAll _ s.woken = taken
  split
  next phase _ =>
    have hpending := same_setFocus taken id (.fetching { f with phase, build := none })
    split
    · exact hpending.trans (.of_tasks rfl rfl)
    · exact hpending
  next slot _ =>
    refine (same_setFocus taken id .stepping).trans ?_
    generalize taken.setFocus id .stepping = stepping
    split
    next path keptAs _ =>
      have hkept := Same.of_world stepping
        (World.framing_keepMediator stepping.world keptAs (f.registry, slot))
      exact hkept.trans (same_answer _ path _)
    · exact same_found ..
    · exact .refl _

/-- A stretch of a look-up is taken in, in a world with the same frames. -/
theorem Same.takeFetch (m : Machine) {w : World} (h : w.framing = m.world.framing) (id : TaskId)
    (f : Fetching) (s : Stretch FetchOutcome) :
    Same m ({ m with world := w }.takeFetch id f s) :=
  (Same.of_world m h).trans (same_takeFetch _ id f s)

theorem same_startFetch (m : Machine) (id : TaskId) (registry : RegistryId) (factory : FactoryId)
    (request : Request) (use : FetchUse) :
    Same m (m.startFetch id registry factory request use) := by
  unfold startFetch
  exact .takeFetch m (w := m.world.freshSpan.2) rfl id _ _

theorem same_consult (m : Machine) (id : TaskId) (path : Path) (registry : RegistryId)
    (factory : FactoryId) (config : Descriptor) (business : Handle) :
    Same m (m.consult id path registry factory config business) := by
  unfold consult
  split
  · exact same_enterPhase ..
  · exact same_startFetch ..

theorem same_buildEnds (m : Machine) (id : TaskId) (f : Fetching) (slot : SlotId) (span : SpanId)
    (p : Provision) : Same m (m.buildEnds id f slot span p) := by
  unfold buildEnds
  exact .takeFetch m (w := m.world.freshSpan.2) rfl id f _

theorem same_abandonFocus (m : Machine) (id : TaskId) : Same m (m.abandonFocus id) := by
  unfold abandonFocus
  split
  next f _ =>
    have htaken := Same.of_world m (World.framing_takeStretch m.world f.registry
      (Fetch.abandon (m.world.registry f.registry) id f.phase))
    exact htaken.trans (same_wakeAll ..)
  · exact .refl m

theorem framing_callRuns (w : World) (h : Handle) (script : CallScript) :
    (callRuns w h script).2.framing = w.framing := by
  unfold callRuns
  split <;> rfl

theorem same_callEnds (m : Machine) (path : Path) (e : Envelope) :
    Same m (m.callEnds path e) := by
  have hended (w : World) (hw : w.framing = m.world.framing) (reply : Reply) :
      Same m ({ m with world := (Ending.call path e).cleanUp w }.answer path reply) := by
    have hcleaned : ((Ending.call path e).cleanUp w).framing = m.world.framing :=
      (World.framing_cleanUp w _).trans hw
    exact (Same.of_world m hcleaned).trans (same_answer _ path reply)
  unfold callEnds
  cases e.phase with
  | calling route target mediator =>
    dsimp only
    have hruns := framing_callRuns m.world (targetHandle e.business target) e.script
    generalize callRuns m.world (targetHandle e.business target) e.script = ran at hruns ⊢
    obtain ⟨outcome, w⟩ := ran
    generalize Dispatcher.finish route target mediator outcome = finished
    obtain ⟨result, effects⟩ := finished
    exact hended (w.take effects) hruns _
  | ended result => exact hended _ rfl _
  | consulting => exact hended _ rfl _

/-! ## Leaving bodies -/

/-- A task leaves some of its innermost bodies, if any. -/
structure Unwinds (m m' : Machine) (id : TaskId) : Prop where
  framing : m'.world.framing = m.world.framing
  size : m'.tasks.size = m.tasks.size
  others : ∀ j, j ≠ id → m'.bodies j = m.bodies j
  own : ∃ n, m'.bodies id = (m.bodies id).drop n

theorem Same.unwinds (h : Same m m') (id : TaskId) : Unwinds m m' id where
  framing := h.framing
  size := h.size
  others j _ := h.bodies j
  own := ⟨0, h.bodies id⟩

theorem Unwinds.trans (h : Unwinds m m' id) (h' : Unwinds m' m'' id) : Unwinds m m'' id where
  framing := h'.framing.trans h.framing
  size := h'.size.trans h.size
  others j hj := (h'.others j hj).trans (h.others j hj)
  own := by
    obtain ⟨n, hn⟩ := h.own
    obtain ⟨n', hn'⟩ := h'.own
    exact ⟨n + n', by rw [hn', hn, List.drop_drop]⟩

theorem Unwinds.trans_same (h : Unwinds m m' id) (h' : Same m' m'') : Unwinds m m'' id :=
  h.trans (h'.unwinds id)

theorem unwinds_modifyTask (m : Machine) (id : TaskId) {f : Task → Task} (n : Nat)
    (hf : (f (m.task id)).activations = (m.task id).activations.drop n) :
    Unwinds m (m.modifyTask id f) id where
  framing := rfl
  size := size_tasks_modifyTask ..
  others j hj := bodies_modifyTask_ne hj f
  own := by
    by_cases hsize : id < m.tasks.size
    · refine ⟨n, ?_⟩
      rw [bodies, task_modifyTask_self hsize, hf, bodies, List.map_drop]
    · have hle := Nat.le_of_not_lt hsize
      refine ⟨0, ?_⟩
      rw [bodies_of_size_le hle, bodies_of_size_le (by rwa [size_tasks_modifyTask])]
      rfl

theorem unwinds_finish (m : Machine) (id : TaskId) (e : TaskEnd) :
    Unwinds m (m.finish id e) id := by
  unfold finish
  dsimp only
  have hleft := unwinds_modifyTask m id (f := fun _ => { activations := [], ended := some e })
    (m.task id).activations.length List.drop_length.symm
  refine hleft.trans_same ?_
  generalize m.modifyTask id _ = left
  have hidle : Same left { left with current := none, settling := left.settling.erase id } :=
    .of_tasks rfl rfl
  exact hidle.trans (same_wakeAll ..)

theorem framing_cleanUps (activations : List Activation) (w : World) :
    (activations.foldl (fun w (a : Activation) => a.ending.cleanUp w) w).framing = w.framing :=
  World.framing_foldl (fun w a => World.framing_cleanUp w a.ending) activations w

theorem unwinds_panics (m : Machine) (id : TaskId) (message : String) :
    Unwinds m (m.panics id message) id := by
  unfold panics
  dsimp only
  refine ((same_abandonFocus m id).unwinds id).trans ?_
  generalize m.abandonFocus id = m
  generalize (m.task id).activations.takeWhile _ = left
  have hcleaned : Same m { m with
      world := left.foldl (fun w (a : Activation) => a.ending.cleanUp w) m.world } :=
    .of_world m (framing_cleanUps left m.world)
  split
  · exact (hcleaned.unwinds id).trans (unwinds_finish ..)
  next a rest hrest =>
    have hdrop : rest = (m.task id).activations.drop (left.length + 1) := by
      rw [← List.drop_drop, hrest]
      rfl
    refine (hcleaned.unwinds id).trans ?_
    have hleft := unwinds_modifyTask { m with
      world := left.foldl (fun w (a : Activation) => a.ending.cleanUp w) m.world } id
      (f := fun t => { t with activations := rest, focus := .stepping }) (left.length + 1) hdrop
    split
    · exact hleft.trans_same (same_answer ..)
    · exact hleft.trans_same (same_answer ..)
    · exact hleft.trans (unwinds_finish ..)

theorem unwinds_cancel (m : Machine) (id : TaskId) : Unwinds m (m.cancel id) id := by
  unfold cancel
  dsimp only
  refine ((same_abandonFocus m id).unwinds id).trans ?_
  generalize m.abandonFocus id = m
  have hcleaned := Same.of_world m (framing_cleanUps (m.task id).activations m.world)
  exact (hcleaned.unwinds id).trans (unwinds_finish ..)

/-- The body that a task was inside of has ended, and the task has left it. -/
theorem unwinds_endBody (m : Machine) (id : TaskId) (e : Ending) :
    Unwinds m (m.endBody id e) id := by
  cases e with
  | task => exact unwinds_finish ..
  | done path => exact (same_answer ..).unwinds id
  | caught path => exact (same_answer ..).unwinds id
  | thread path => exact (same_answer ..).unwinds id
  | guarded path stack t =>
    have hdropped := Same.of_world m (World.framing_dropTicket m.world stack t)
    exact (hdropped.trans (same_answer ..)).unwinds id
  | call path e => exact (same_callEnds ..).unwinds id

theorem unwinds_actOn (m : Machine) (id : TaskId) (f : Fetching) (slot : SlotId) (span : SpanId)
    (factory : String) (number : Nat) (outcome : BuildOutcome) :
    Unwinds m (m.actOn id f slot span factory number outcome) id := by
  cases outcome with
  | fresh closeFails =>
    have hmade := Same.of_world m (World.framing_setHandle m.world
      (factory ++ "#" ++ toString number)
      { m.world.handle (factory ++ "#" ++ toString number) with closeFails })
    exact (hmade.trans (same_buildEnds ..)).unwinds id
  | shared h => exact (same_buildEnds ..).unwinds id
  | absent => exact (same_buildEnds ..).unwinds id
  | failed e => exact (same_buildEnds ..).unwinds id
  | panics message => exact unwinds_panics ..

theorem unwinds_build (m : Machine) (id : TaskId) (f : Fetching) (slot : SlotId) (span : SpanId) :
    Unwinds m (m.build id f slot span) id := by
  unfold build
  split
  · exact (same_buildEnds ..).unwinds id
  next name gate outcomes builds _ =>
    split
    · have hbegun : Same m { m with world := { m.world with
          factories := m.world.factories.setIfInBounds f.factory
            (.scripted name gate outcomes (builds + 1)) } } := .of_world m rfl
      have hfocused := (hbegun.trans (same_emit _ .build
        (.building name builds f.request.config))).trans
        (same_setFocus _ id (.fetching { f with build := some builds }))
      split
      · exact (hfocused.trans (same_queueAt ..)).unwinds id
      · exact hfocused.unwinds id
    · exact unwinds_actOn ..

theorem unwinds_fetchOn (m : Machine) (id : TaskId) (f : Fetching) :
    Unwinds m (m.fetchOn id f) id := by
  unfold fetchOn
  split
  · exact unwinds_build ..
  · exact (Same.takeFetch m (w := m.world.freshSpan.2) rfl id f _).unwinds id
  next mediator _ =>
    have hclosed := World.framing_closeHandle m.world mediator.shadow
    generalize m.world.closeHandle mediator.shadow = closed at hclosed ⊢
    obtain ⟨failure, w⟩ := closed
    exact (Same.takeFetch m (w := w.freshSpan.2) hclosed id f _).unwinds id

end Machine

end ShadowTraffic.Scenario
