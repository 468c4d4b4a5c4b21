import Mathlib.Data.List.Induction
import ShadowTraffic.Proofs.Scenario.FrameSteps

/-! # Traffic contexts are isolated per frame

Tasks take turns in any order, and code of theirs may change the context of the call that it runs in
in any way. All the while the context of a frame is the one that the frame was made with, changed by
exactly what code running in this very frame has done since, in order. Bodies nest, so a task that
leaves some of them is back in the frame that it was in before.
-/

namespace ShadowTraffic.Scenario

/-- What may happen next, under any schedule. -/
inductive Turn where
  /-- A task makes a small step. -/
  | advance (id : TaskId)
  /-- Code that runs in a task's innermost body changes the current context. -/
  | update (id : TaskId) (change : TrafficContext → TrafficContext)
  /-- The scheduler takes the task that is next. -/
  | schedule

/-- The task whose turn it is. -/
def Turn.task : Turn → Option TaskId
  | advance id => some id
  | update id _ => some id
  | schedule => none

namespace World

/-- The context of a frame. -/
def contextOf (w : World) (f : FrameId) : Option TrafficContext :=
  (w.frames[f]?).map (·.traffic)

theorem current?_eq (w : World) (here : Place) : w.current? here = here.frame.bind w.contextOf := by
  rw [current?, frame?]
  cases here.frame <;> rfl

end World

namespace Machine

/-- The step that a task begins when it makes a small step. -/
def beginning? (m : Machine) (id : TaskId) : Option Step :=
  let t := m.task id
  if t.ended.isSome || t.cancelled then none
  else
    match t.focus with
    | .stepping => t.activations.head?.bind (·.rest.head?)
    | _ => none

def turn (m : Machine) : Turn → Machine
  | .advance id => m.advance id
  | .update id change =>
    match m.world.current? (m.place id) with
    | some t => { m with world := m.world.setCurrent (m.place id) (change t) }
    | none => m
  | .schedule => m.next?.getD m

/-- What a turn does to frames. -/
def effect (m : Machine) : Turn → FrameEffect
  | .advance id =>
    match m.beginning? id with
    | some s => s.frameEffect m.world (m.place id).frame
    | none => {}
  | .update id change => { event := (m.place id).frame.map (.changed · change) }
  | .schedule => {}

def plays (m : Machine) (turns : List Turn) : Machine :=
  turns.foldl turn m

/-- What turns do to contexts, the latest first. -/
def logOf (m : Machine) : List Turn → FrameLog
  | [] => []
  | t :: rest => (m.turn t).logOf rest ++ (m.effect t).event.toList

variable {m m' : Machine} {id : TaskId} {log : FrameLog}

theorem plays_append (m : Machine) (turns later : List Turn) :
    m.plays (turns ++ later) = (m.plays turns).plays later :=
  List.foldl_append

/-- The machine's own schedule is one of them. -/
theorem run_eq_plays (bound : Nat) (m : Machine) : ∃ turns, m.run bound = m.plays turns := by
  induction bound generalizing m with
  | zero => exact ⟨[], rfl⟩
  | succ bound ih =>
    rw [run]
    cases hstep : m.step? with
    | none => exact ⟨[], rfl⟩
    | some next =>
      obtain ⟨turns, hturns⟩ := ih next
      have hnext : ∃ t, m.turn t = next := by
        unfold step? at hstep
        split at hstep
        · cases hstep
        · split at hstep
          next id _ =>
            cases hstep
            exact ⟨.advance id, rfl⟩
          · refine ⟨.schedule, ?_⟩
            rw [turn, hstep]
            rfl
      obtain ⟨t, ht⟩ := hnext
      refine ⟨t :: turns, ?_⟩
      rw [plays, List.foldl_cons, ht]
      exact hturns

/-! ## One turn -/

/-- The next step of a body is taken from it. -/
theorem same_takeStep {a : Activation} {outer : List Activation}
    (h : (m.task id).activations = a :: outer) (more : List Step) :
    Same m (m.modifyTask id fun t =>
      { t with activations := { a with next := a.next + 1, rest := more } :: outer }) := by
  refine ⟨rfl, size_tasks_modifyTask .., fun j => ?_⟩
  by_cases hj : j = id
  · subst hj
    rw [bodies, task_modifyTask_self (lt_size_of_activations h), bodies, h]
    rfl
  · exact bodies_modifyTask_ne hj _

/-- A task that steps on ends its innermost body or begins the next step of it. -/
theorem turned_stepOn (m : Machine) (id : TaskId) :
    Turned m (m.stepOn id) (some id)
      (match (m.task id).activations.head?.bind (·.rest.head?) with
        | some s => s.frameEffect m.world (m.place id).frame
        | none => {}) := by
  unfold stepOn
  cases hactivations : (m.task id).activations with
  | nil => exact (unwinds_finish m id .done).turned_same
  | cons a outer =>
    dsimp only [List.head?_cons, Option.bind_some]
    cases hrest : a.rest with
    | nil =>
      have hleft := unwinds_modifyTask m id (f := fun t => { t with activations := outer }) 1
        (by rw [hactivations, List.drop_one, List.tail_cons])
      exact (hleft.trans (unwinds_endBody _ id a.ending)).turned_same
    | cons s more =>
      have htaken := same_takeStep hactivations more
      dsimp only [List.head?_cons]
      rw [← htaken.frame_place id]
      refine .of_same htaken rfl (turned_beginStep ?_ _ s)
      rw [htaken.size]
      exact lt_size_of_activations hactivations

/-- A small step that begins no step of the script. -/
theorem turned_of_not_beginning (hnone : m.beginning? id = none) (h : Unwinds m m' id) :
    Turned m m' (some id) (m.effect (.advance id)) := by
  rw [effect, hnone]
  exact h.turned_same

theorem turned_advance (m : Machine) (id : TaskId) :
    Turned m (m.advance id) (some id) (m.effect (.advance id)) := by
  unfold advance
  dsimp only
  split
  next hended =>
    refine turned_of_not_beginning ?_ ((same_suspend m).unwinds id)
    rw [beginning?, hended]
    rfl
  next hrunning =>
    split
    next hcancelled =>
      refine turned_of_not_beginning ?_ (unwinds_cancel m id)
      rw [beginning?, hcancelled, Bool.or_true]
      rfl
    next hgoes =>
      have hbeginning : m.beginning? id = match (m.task id).focus with
          | .stepping => (m.task id).activations.head?.bind (·.rest.head?)
          | _ => none := by
        rw [beginning?, Bool.not_eq_true _ |>.mp hrunning, Bool.not_eq_true _ |>.mp hgoes]
        rfl
      cases hfocus : (m.task id).focus with
      | stepping =>
        rw [effect, hbeginning, hfocus]
        exact turned_stepOn m id
      | waiting path gate =>
        rw [hfocus] at hbeginning
        refine turned_of_not_beginning hbeginning (Same.unwinds ?_ id)
        dsimp only
        split
        · exact (same_setFocus m id .stepping).trans (same_answer _ path .passed)
        · exact .of_tasks rfl rfl
      | joining path other =>
        rw [hfocus] at hbeginning
        refine turned_of_not_beginning hbeginning (Same.unwinds ?_ id)
        dsimp only
        split
        · exact (same_setFocus m id .stepping).trans (same_answer ..)
        · exact .of_tasks rfl rfl
      | settling path =>
        rw [hfocus] at hbeginning
        exact turned_of_not_beginning hbeginning
          (((same_setFocus m id .stepping).trans (same_answer _ path .settled)).unwinds id)
      | fetching f =>
        rw [hfocus] at hbeginning
        exact turned_of_not_beginning hbeginning (unwinds_fetchOn m id f)

theorem turned_turn (m : Machine) (t : Turn) : Turned m (m.turn t) t.task (m.effect t) := by
  cases t with
  | advance id => exact turned_advance m id
  | update id change =>
    unfold turn
    dsimp only
    split
    next t ht =>
      have hsame := Same.refl { m with world := m.world.setCurrent (m.place id) (change t) }
      refine (hsame.unwinds id).turned
        (.setCurrent m.world (m.place id) change (fun old hold => ?_) rfl) rfl rfl
      rw [ht] at hold
      cases hold
      rfl
    next hnone =>
      exact Unwinds.turned (w := m.world) ((Same.refl _).unwinds id)
        (.of_none m.world hnone change rfl) rfl rfl
  | schedule =>
    have hnext : Same m (m.next?.getD m) := by
      unfold next?
      split <;> exact .of_tasks rfl rfl
    exact hnext.turned_idle

/-! ## Frames that are referred to -/

/-- A log tells the frames of a machine, and every frame that a body runs in, or is kept to run in,
is one of them. -/
structure Logged (m : Machine) (log : FrameLog) : Prop where
  tells : log.Tells m.world.frames
  bodies : ∀ id f, some f ∈ m.bodies id → f < m.world.frames.size
  callbacks : ∀ name c, m.world.callbacks.get? name = some c → c.frame < m.world.frames.size
  futures : ∀ name c, m.world.futures.get? name = some c → c.frame < m.world.frames.size

theorem logged_start (script : List Step) : Logged (start script) [] where
  tells := .empty
  bodies id f hf := by
    have hbodies : (start script).bodies id = [none] ∨ (start script).bodies id = [] := by
      cases id with
      | zero => exact .inl rfl
      | succ n => exact .inr (bodies_of_size_le (Nat.le_add_left 1 n))
    rcases hbodies with h | h <;> simp [h] at hf
  callbacks _ _ hc := by cases hc
  futures _ _ hc := by cases hc

theorem mem_bodies_of_place {f : FrameId} (h : (m.place id).frame = some f) :
    some f ∈ m.bodies id := by
  rw [frame_place] at h
  obtain ⟨frame, hframe, hf⟩ := List.exists_of_findSome?_eq_some h
  rw [← hf]
  exact hframe

theorem Logged.place (h : Logged m log) {f : FrameId} (hf : (m.place id).frame = some f) :
    f < m.world.frames.size :=
  h.bodies id f (mem_bodies_of_place hf)

theorem fits_advance (m : Machine) (id : TaskId) :
    (m.effect (.advance id)).Fits m.world (m.place id).frame := by
  unfold effect
  dsimp only
  split
  · exact Step.fits_frameEffect ..
  · exact .empty ..

theorem fits_effect (m : Machine) (t : Turn) :
    ∃ id, (m.effect t).Fits m.world (m.place id).frame := by
  cases t with
  | advance id => exact ⟨id, fits_advance m id⟩
  | update id change => exact ⟨id, .changed ..⟩
  | schedule => exact ⟨0, .empty ..⟩

/-- One turn keeps track. -/
theorem Logged.turn (h : Logged m log) (t : Turn) :
    Logged (m.turn t) ((m.effect t).event.toList ++ log) := by
  have hturned := turned_turn m t
  obtain ⟨here, hfits⟩ := fits_effect m t
  have htells := hturned.world.log log h.tells
  have hle : m.world.frames.size ≤ (m.turn t).world.frames.size := by
    rw [htells.size, h.tells.size]
    exact FrameLog.made_append _ log
  have hnew (hmakes : (m.effect t).makes) :
      m.world.frames.size < (m.turn t).world.frames.size := by
    rw [htells.size, FrameEffect.made_of_makes hmakes, h.tells.size]
    exact Nat.lt_succ_self _
  have hentered (f : FrameId) (hf : (m.effect t).enters = some f) :
      f < (m.turn t).world.frames.size := by
    rcases hfits.enters f hf with haround | ⟨hmakes, rfl⟩ | ⟨name, c, hc | hc, rfl⟩
    · exact Nat.lt_of_lt_of_le (h.place haround) hle
    · exact hnew hmakes
    · exact Nat.lt_of_lt_of_le (h.callbacks name c hc) hle
    · exact Nat.lt_of_lt_of_le (h.futures name c hc) hle
  refine ⟨htells, ?_, ?_, ?_⟩
  · intro id f hf
    by_cases htask : t.task = some id
    · cases henters : (m.effect t).enters with
      | some g =>
        rw [hturned.enters id g htask henters] at hf
        rcases List.mem_cons.mp hf with hg | hold
        · exact hentered f (henters.trans hg.symm)
        · exact Nat.lt_of_lt_of_le (h.bodies id f hold) hle
      | none =>
        rcases hturned.leaves id htask henters with hbodies | ⟨n, hbodies⟩
        · rw [hbodies, List.mem_cons] at hf
          exact Nat.lt_of_lt_of_le (h.bodies id f (hf.resolve_left (by simp))) hle
        · rw [hbodies] at hf
          exact Nat.lt_of_lt_of_le (h.bodies id f (List.mem_of_mem_drop hf)) hle
    · by_cases hid : id = m.tasks.size
      · rw [hid, hturned.spawned, Option.mem_toList] at hf
        obtain ⟨hmakes, rfl⟩ := hfits.spawns f hf
        exact hnew hmakes
      · rw [hturned.others id htask hid] at hf
        exact Nat.lt_of_lt_of_le (h.bodies id f hf) hle
  · intro name c hc
    rcases hturned.world.callbacks name c hc with hold | ⟨hbinds, hframe⟩
    · exact Nat.lt_of_lt_of_le (h.callbacks name c hold) hle
    · rw [hframe]
      exact hnew (hfits.kept (.inl (by rw [hbinds]; rfl)))
  · intro name c hc
    rcases hturned.world.futures name c hc with hold | ⟨hcarries, hframe⟩
    · exact Nat.lt_of_lt_of_le (h.futures name c hold) hle
    · rw [hframe]
      exact hnew (hfits.kept (.inr (by rw [hcarries]; rfl)))

theorem Logged.plays (h : Logged m log) (turns : List Turn) :
    Logged (m.plays turns) (m.logOf turns ++ log) := by
  induction turns generalizing m log with
  | nil => exact h
  | cons t rest ih =>
    have hrest := ih (h.turn t)
    rw [logOf, List.append_assoc]
    exact hrest

/-! ## Bodies nest -/

/-- In one turn a task leaves some of its innermost bodies or begins further ones. -/
theorem bodies_turn (m : Machine) (t : Turn) (id : TaskId) :
    m.bodies id <:+ (m.turn t).bodies id ∨ (m.turn t).bodies id <:+ m.bodies id := by
  have hturned := turned_turn m t
  by_cases htask : t.task = some id
  · cases henters : (m.effect t).enters with
    | some f =>
      rw [hturned.enters id f htask henters]
      exact .inl (List.suffix_cons _ _)
    | none =>
      rcases hturned.leaves id htask henters with hbodies | ⟨n, hbodies⟩
      · rw [hbodies]
        exact .inl (List.suffix_cons _ _)
      · rw [hbodies]
        exact .inr (List.drop_suffix _ _)
  · by_cases hid : id = m.tasks.size
    · rw [bodies_of_size_le (Nat.le_of_eq hid.symm)]
      exact .inl (List.nil_suffix)
    · rw [hturned.others id htask hid]
      exact .inl (List.suffix_refl _)

/-- As long as a task does not leave them, the bodies that it is inside of stay. -/
theorem bodies_plays (m : Machine) (id : TaskId) (turns : List Turn)
    (h : ∀ earlier, earlier <+: turns →
      (m.bodies id).length ≤ ((m.plays earlier).bodies id).length) :
    m.bodies id <:+ (m.plays turns).bodies id := by
  induction turns using List.reverseRecOn with
  | nil => exact List.suffix_refl _
  | append_singleton turns t ih =>
    have houter := ih fun earlier hearlier => h earlier (hearlier.trans (List.prefix_append _ _))
    have hlong := h (turns ++ [t]) (List.prefix_refl _)
    have hlast : m.plays (turns ++ [t]) = (m.plays turns).turn t := plays_append m turns [t]
    rw [hlast] at hlong ⊢
    rcases bodies_turn (m.plays turns) t id with hbegun | hleft
    · exact houter.trans hbegun
    · exact List.suffix_of_suffix_length_le houter hleft hlong

/-! ## Isolation -/

/-- Contexts are isolated per frame, from some point on. -/
structure Isolates (m : Machine) : Prop where
  /-- Inside a frame there is a context, that of the innermost one. -/
  inside : ∀ id f, (m.place id).frame = some f →
    (m.world.contextOf f).isSome ∧ m.world.current? (m.place id) = m.world.contextOf f
  /-- A frame that is opened next has the given context. -/
  opened : ∀ t traffic, (m.effect t).event = some (.opened traffic) →
    (m.turn t).world.contextOf m.world.frames.size = some traffic
  /-- A frame that is captured next has a copy of the current context, or an empty one outside any
  frame. -/
  captured : ∀ id source, (m.effect (.advance id)).event = some (.captured source) →
    (m.turn (.advance id)).world.contextOf m.world.frames.size =
      some ((m.world.current? (m.place id)).getD {})
  /-- The context of a frame goes through all the changes made in this frame, in order, and through
  no others. -/
  later : ∀ turns f, f < m.world.frames.size →
    (m.plays turns).world.contextOf f =
      (m.world.contextOf f).map (FrameLog.changing ((m.logOf turns).changesOf f))
  /-- Bodies run in the frames that were made for them, and are left from the inside. -/
  nests : ∀ t, Turned m (m.turn t) t.task (m.effect t)
  /-- When a task has left, in whatever way, all the bodies that it has begun since, it is back in
  the frame that it was in, and only what was done in this frame has changed its context. -/
  back : ∀ id turns,
    (∀ earlier, earlier <+: turns →
      (m.bodies id).length ≤ ((m.plays earlier).bodies id).length) →
    ((m.plays turns).bodies id).length = (m.bodies id).length →
    ((m.plays turns).place id).frame = (m.place id).frame ∧
      ∀ f, (m.place id).frame = some f →
        (m.plays turns).world.current? ((m.plays turns).place id) =
          (m.world.current? (m.place id)).map
            (FrameLog.changing ((m.logOf turns).changesOf f))

theorem Logged.contextOf (h : Logged m log) (f : FrameId) :
    m.world.contextOf f = log.contextOf f :=
  h.tells.context f

theorem Logged.later (h : Logged m log) (turns : List Turn) {f : FrameId}
    (hf : f < m.world.frames.size) :
    (m.plays turns).world.contextOf f =
      (m.world.contextOf f).map (FrameLog.changing ((m.logOf turns).changesOf f)) := by
  rw [h.tells.size] at hf
  rw [(h.plays turns).contextOf, h.contextOf, FrameLog.contextOf_append hf]

theorem Logged.isolates (h : Logged m log) : Isolates m where
  inside id f hf := by
    refine ⟨?_, ?_⟩
    · rw [h.contextOf, FrameLog.isSome_contextOf, ← h.tells.size]
      exact h.place hf
    · rw [World.current?_eq, hf, Option.bind_some]
  opened t traffic ht := by
    rw [(h.turn t).contextOf, ht, h.tells.size]
    exact if_pos rfl
  captured id source hsource := by
    have haround : source = (m.place id).frame := (fits_advance m id).captured source hsource
    have hcurrent : m.world.current? (m.place id) = source.bind log.contextOf := by
      rw [World.current?_eq, haround]
      exact congrArg _ (funext h.contextOf)
    rw [(h.turn (.advance id)).contextOf, hsource, h.tells.size, hcurrent]
    exact if_pos rfl
  later turns f hf := h.later turns hf
  nests := turned_turn m
  back id turns hinside hlength := by
    have hbodies : (m.plays turns).bodies id = m.bodies id :=
      ((bodies_plays m id turns hinside).eq_of_length hlength.symm).symm
    have hframe : ((m.plays turns).place id).frame = (m.place id).frame := by
      rw [frame_place, hbodies, frame_place]
    refine ⟨hframe, fun f hf => ?_⟩
    rw [World.current?_eq, World.current?_eq, hframe, hf, Option.bind_some, Option.bind_some]
    exact h.later turns (h.place hf)

/-- Whatever tasks do, and in whatever order they take turns: at every point the context that is
current for a task is what the log says of its innermost frame, which is the context that this frame
was made with, changed by what code in this very frame has done since; and from there on contexts
stay isolated. -/
theorem contexts_isolated (script : List Step) (turns : List Turn) :
    let m := (start script).plays turns
    let log := (start script).logOf turns
    (∀ id, m.world.current? (m.place id) = (m.place id).frame.bind log.contextOf) ∧ Isolates m := by
  have hlogged := (logged_start script).plays turns
  rw [List.append_nil] at hlogged
  refine ⟨fun id => ?_, hlogged.isolates⟩
  rw [World.current?_eq]
  exact congrArg _ (funext hlogged.contextOf)

end Machine

end ShadowTraffic.Scenario
