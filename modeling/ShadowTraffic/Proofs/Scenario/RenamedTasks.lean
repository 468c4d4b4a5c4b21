import Mathlib.Data.List.Forall2
import ShadowTraffic.Proofs.Scenario.AlikeWorlds

/-! # Tasks under other tokens

Machines that are alike have the same tasks in the same order, suspended at the same places, and
records that cannot be told apart. Scheduling, answers, panics and cancellations keep them alike.
-/

namespace ShadowTraffic.Scenario

variable {ρ : TokenRenaming}

/-! ## What does not depend on tokens -/

theorem Activation.span?_rename (activations : List Activation) :
    Activation.span? (activations.map (Activation.rename ρ)) = Activation.span? activations := by
  induction activations with
  | nil => rfl
  | cons a rest ih =>
    obtain ⟨ending, path, next, body, frame, span⟩ := a
    cases span with
    | some id => cases ending <;> rfl
    | none =>
      cases ending with
      | thread path => rfl
      | _ => exact ih

theorem Activation.place_rename (activations : List Activation) :
    Activation.place (activations.map (Activation.rename ρ)) = Activation.place activations := by
  have hframe : (activations.map (Activation.rename ρ)).findSome? (·.frame) =
      activations.findSome? (·.frame) := by
    rw [List.findSome?_map]
    rfl
  rw [Activation.place, Activation.span?_rename, hframe, Activation.place]

theorem Task.registries_rename (t : Task) : (t.rename ρ).registries = t.registries := by
  unfold Task.registries
  refine congrArg₂ (· ++ ·) ?_ ?_
  · unfold Task.rename
    cases t.focus <;> rfl
  · dsimp only [Task.rename]
    rw [List.flatMap_map]
    refine List.flatMap_congr fun a _ => ?_
    unfold Activation.rename
    cases a.ending <;> rfl

theorem Ending.stopsPanic_rename (e : Ending) : (e.rename ρ).stopsPanic = e.stopsPanic := by
  cases e <;> rfl

theorem World.Renamed.cleanUp {w w' : World} (h : World.Renamed ρ w w') (e : Ending) :
    World.Renamed ρ (e.cleanUp w) ((e.rename ρ).cleanUp w') := by
  cases e with
  | guarded path stack t => exact h.dropTicket stack t
  | call path e =>
    obtain ⟨registry, service, dispatcher, ticket, phase, business, script⟩ := e
    cases ticket with
    | none => exact h
    | some t => exact h.dropTicket t.1 t.2
  | _ => exact h

/-- Bodies are left one after the other. -/
theorem World.Renamed.cleanUpAll {w w' : World} (h : World.Renamed ρ w w')
    (activations : List Activation) :
    World.Renamed ρ (activations.foldl (fun w (a : Activation) => a.ending.cleanUp w) w)
      ((activations.map (Activation.rename ρ)).foldl
        (fun w (a : Activation) => a.ending.cleanUp w) w') := by
  induction activations generalizing w w' with
  | nil => exact h
  | cons a rest ih => exact ih (h.cleanUp a.ending)

namespace Machine

/-- Machines that are alike under other tokens. -/
structure Renamed (ρ : TokenRenaming) (m m' : Machine) : Prop where
  world : m.world.Renamed ρ m'.world
  tasks : m'.tasks = m.tasks.map (Task.rename ρ)
  jobs : m'.jobs = m.jobs
  current : m'.current = m.current
  ready : m'.ready = m.ready
  settling : m'.settling = m.settling
  entries : List.Forall₂ Entry.Alike m.record.entries.toList m'.record.entries.toList

namespace Renamed

variable {m m' : Machine}

theorem withWorld (h : Renamed ρ m m') {w w' : World} (hw : World.Renamed ρ w w') :
    Renamed ρ { m with world := w } { m' with world := w' } :=
  { h with world := hw }

/-! ### Reading -/

theorem task (h : Renamed ρ m m') (id : TaskId) : m'.task id = (m.task id).rename ρ := by
  rw [Machine.task, h.tasks, Array.getElem?_map, Machine.task]
  cases m.tasks[id]? <;> rfl

theorem place (h : Renamed ρ m m') (id : TaskId) : m'.place id = m.place id := by
  rw [Machine.place, h.task]
  exact Activation.place_rename _

theorem activations (h : Renamed ρ m m') (id : TaskId) :
    (m'.task id).activations = (m.task id).activations.map (Activation.rename ρ) := by
  rw [h.task]
  rfl

theorem focus (h : Renamed ρ m m') (id : TaskId) :
    (m'.task id).focus = (m.task id).focus.rename ρ := by
  rw [h.task]
  rfl

theorem ended (h : Renamed ρ m m') (id : TaskId) : (m'.task id).ended = (m.task id).ended := by
  rw [h.task]
  rfl

/-! ### Changing a task -/

theorem modifyTask (h : Renamed ρ m m') (id : TaskId) (f f' : Task → Task)
    (hf : ∀ t, f' (t.rename ρ) = (f t).rename ρ) :
    Renamed ρ (m.modifyTask id f) (m'.modifyTask id f') := by
  refine { h with tasks := ?_ }
  simp only [Machine.modifyTask, h.tasks]
  refine Array.ext_getElem? fun i => ?_
  simp only [Array.getElem?_map, Array.getElem?_modify]
  split
  · simp only [Option.map_map, Function.comp_def, hf]
  · rfl

theorem setFocus (h : Renamed ρ m m') (id : TaskId) (focus : Focus) :
    Renamed ρ (m.setFocus id focus) (m'.setFocus id (focus.rename ρ)) :=
  h.modifyTask id _ _ fun _ => rfl

theorem push (h : Renamed ρ m m') (id : TaskId) (a : Activation) :
    Renamed ρ (m.push id a) (m'.push id (a.rename ρ)) :=
  h.modifyTask id _ _ fun _ => rfl

/-! ### Reports -/

theorem take (h : Renamed ρ m m') {effects effects' : List Effect}
    (heffects : shown effects' = shown effects) :
    Renamed ρ (m.take effects) (m'.take effects') :=
  h.withWorld (h.world.take heffects)

/-- An entry is left in worlds that are alike, with answers that are. -/
theorem emitIn (h : Renamed ρ m m') {w w' : World} (hw : w.Alike ρ w') (origin : Origin)
    {reply reply' : Reply} (hreply : reply.Alike reply')
    (hevents : shown w'.reported = shown w.reported ∨
      reply.isCount = true ∧ Reordered w.reported w'.reported) :
    Renamed ρ ({ m with world := w }.emit origin reply)
      ({ m' with world := w' }.emit origin reply') := by
  have hused : m'.tasks.toList.flatMap Task.registries =
      m.tasks.toList.flatMap Task.registries := by
    rw [h.tasks, Array.toList_map, List.flatMap_map]
    exact List.flatMap_congr fun t _ => Task.registries_rename t
  obtain ⟨hswept, more, hreported, hreported'⟩ :=
    hw.sweep (m.tasks.toList.flatMap Task.registries)
  have hfailure : reply'.failure? = reply.failure? := by
    rw [← reply'.failure?_masked, hreply, reply.failure?_masked]
  unfold emit
  dsimp only
  rw [hused]
  refine { h with world := ?_, entries := ?_ }
  · exact (hswept.withReported [] []).renamed rfl
  · rw [Array.toList_push, Array.toList_push]
    refine List.rel_append h.entries (.cons ⟨rfl, hreply, hfailure, ?_⟩ .nil)
    dsimp only
    rw [hreported, hreported']
    rcases hevents with hshown | ⟨hcount, hreordered⟩
    · refine .inl ?_
      rw [shown_append, shown_append, hshown]
    · exact .inr ⟨hcount, hreordered.append_right more⟩

theorem emit (h : Renamed ρ m m') (origin : Origin) {reply reply' : Reply}
    (hreply : reply.Alike reply') :
    Renamed ρ (m.emit origin reply) (m'.emit origin reply') :=
  h.emitIn h.world.toAlike origin hreply (.inl h.world.reported)

theorem answer (h : Renamed ρ m m') (path : Path) {reply reply' : Reply}
    (hreply : reply.Alike reply') :
    Renamed ρ (m.answer path reply) (m'.answer path reply') :=
  h.emit (.step path) hreply

/-! ### Scheduling -/

theorem suspend (h : Renamed ρ m m') : Renamed ρ m.suspend m'.suspend :=
  { h with current := rfl }

theorem wake (h : Renamed ρ m m') (id : TaskId) : Renamed ρ (m.wake id) (m'.wake id) := by
  unfold Machine.wake
  rw [h.ended, h.ready, h.current]
  split
  · exact h
  · exact { h with current := rfl, ready := rfl }

theorem wakeAll (h : Renamed ρ m m') (ids : List TaskId) :
    Renamed ρ (m.wakeAll ids) (m'.wakeAll ids) := by
  unfold Machine.wakeAll
  induction ids generalizing m m' with
  | nil => exact h
  | cons id ids ih => exact ih (h.wake id)

theorem finish (h : Renamed ρ m m') (id : TaskId) (e : TaskEnd) :
    Renamed ρ (m.finish id e) (m'.finish id e) := by
  have hjoiners : (m'.task id).joiners = (m.task id).joiners := by
    rw [h.task]
    rfl
  have hended := h.modifyTask id (fun _ => { activations := [], ended := some e })
    (fun _ => { activations := [], ended := some e }) fun _ => rfl
  unfold Machine.finish
  dsimp only
  rw [hjoiners]
  have hsettling : (m'.modifyTask id fun _ => { activations := [], ended := some e }).settling =
      (m.modifyTask id fun _ => { activations := [], ended := some e }).settling :=
    hended.settling
  rw [hsettling]
  have hleft : Renamed ρ
      { m.modifyTask id (fun _ => { activations := [], ended := some e }) with
        current := none
        settling := (m.modifyTask id fun _ =>
          { activations := [], ended := some e }).settling.erase id }
      { m'.modifyTask id (fun _ => { activations := [], ended := some e }) with
        current := none
        settling := (m.modifyTask id fun _ =>
          { activations := [], ended := some e }).settling.erase id } :=
    { hended with current := rfl, settling := rfl }
  exact hleft.wakeAll _

/-- The next task to run is the same. -/
theorem next? (h : Renamed ρ m m') : Option.Rel (Renamed ρ) m.next? m'.next? := by
  unfold Machine.next?
  rw [h.ready, h.settling]
  split
  · exact .some { h with ready := rfl, settling := rfl, current := rfl }
  · exact .some { h with ready := rfl, settling := rfl, current := rfl }
  · exact .none

/-! ### Leaving bodies early -/

theorem abandonFocus (h : Renamed ρ m m') (id : TaskId) :
    Renamed ρ (m.abandonFocus id) (m'.abandonFocus id) := by
  unfold Machine.abandonFocus
  rw [h.focus]
  cases (m.task id).focus with
  | fetching f =>
    have habandon := Fetch.renamed_abandon (h.world.registry f.registry) id f.phase
    have hwoken := habandon.woken
    dsimp only [Focus.rename, Fetching.rename]
    rw [hwoken]
    exact (h.withWorld (h.world.takeStretch f.registry habandon)).wakeAll _
  | _ => exact h

theorem panics (h : Renamed ρ m m') (id : TaskId) (message : String) :
    Renamed ρ (m.panics id message) (m'.panics id message) := by
  have habandoned := h.abandonFocus id
  unfold Machine.panics
  dsimp only
  generalize m.abandonFocus id = n at habandoned ⊢
  generalize m'.abandonFocus id = n' at habandoned ⊢
  have hstops : (fun a : Activation => !a.ending.stopsPanic) ∘ Activation.rename ρ =
      fun a => !a.ending.stopsPanic := by
    funext a
    exact congrArg not (Ending.stopsPanic_rename a.ending)
  rw [habandoned.activations, List.takeWhile_map, hstops, List.length_map, ← List.map_drop]
  generalize (n.task id).activations.takeWhile _ = left
  have hleft := habandoned.withWorld (habandoned.world.cleanUpAll left)
  cases (n.task id).activations.drop left.length with
  | nil => exact hleft.finish id _
  | cons a rest =>
    obtain ⟨ending, path, next, body, frame, span⟩ := a
    have hrest := hleft.modifyTask id
      (fun t => { t with activations := rest, focus := .stepping })
      (fun t => { t with activations := rest.map (Activation.rename ρ), focus := .stepping })
      fun _ => rfl
    cases ending with
    | caught path => exact hrest.answer path rfl
    | thread path => exact hrest.answer path rfl
    | _ => exact hrest.finish id _

theorem cancel (h : Renamed ρ m m') (id : TaskId) : Renamed ρ (m.cancel id) (m'.cancel id) := by
  have habandoned := h.abandonFocus id
  unfold Machine.cancel
  dsimp only
  generalize m.abandonFocus id = n at habandoned ⊢
  generalize m'.abandonFocus id = n' at habandoned ⊢
  rw [habandoned.activations]
  exact (habandoned.withWorld (habandoned.world.cleanUpAll _)).finish id _

end Renamed

end Machine

end ShadowTraffic.Scenario
