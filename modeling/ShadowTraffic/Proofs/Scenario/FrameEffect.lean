import ShadowTraffic.Proofs.Scenario.Turns

/-! # What steps do to frames

A step that is begun may make a frame, by opening one with a context or by capturing the one around
it, or may change the context of the one around it. Its body then runs in a frame of its own, or in
the one around it; or it is kept, for a callback, a continuation or another task, to run in the
frame that was captured for it. Everything else that steps do leaves frames alone.
-/

namespace ShadowTraffic.Scenario

/-- What a step does to contexts, and which bodies run in which frames because of it. -/
structure FrameEffect where
  /-- What happens to the contexts. -/
  event : Option FrameEvent := none
  /-- The frame of its own that a body is begun in. -/
  enters : Option FrameId := none
  /-- The callback that is to run in the captured frame. -/
  binds : Option String := none
  /-- The continuation that is to run in the captured frame. -/
  carries : Option String := none
  /-- The frame of a new task's body; without one it runs outside any. -/
  spawns : Option (Option FrameId) := none

/-- What an intercepted call does to frames: outside any it gets one. -/
def FrameEffect.ofCall (w : World) (around : Option FrameId) : FrameEffect :=
  match around with
  | some f => { enters := some f }
  | none => { event := some (.opened {}), enters := some w.frames.size }

/-- What a step does to frames that is begun in some frame, or outside any. The number of the next
frame is that of the frames there are. -/
def Step.frameEffect (w : World) (around : Option FrameId) : Step → FrameEffect
  | .command (.frame .clear) => { event := around.map (.changed · fun _ => {}) }
  | .command (.frame (.update change)) =>
    match around, ((Act.rules none).run w).1 with
    | some f, .ok r => { event := some (.changed f fun t => (change.apply r t).1) }
    | _, _ => {}
  | .block (.withContext context) _ =>
    match ((Machine.contextOr context).run w).1 with
    | .ok t => { event := some (.opened t), enters := some w.frames.size }
    | .error _ => {}
  | .block .carry _ => { event := some (.captured around), enters := some w.frames.size }
  | .block (.bind (.ok name)) _ => { event := some (.captured around), binds := some name }
  | .block (.carryLater (.ok name)) _ => { event := some (.captured around), carries := some name }
  | .block (.spawn (.ok _) carry) _ =>
    if carry then { event := some (.captured around), spawns := some (some w.frames.size) }
    else { spawns := some none }
  | .task (.callback (.ok name) _) => { enters := (w.callbacks.get? name).map (·.frame) }
  | .task (.await (.ok name)) => { enters := (w.futures.get? name).map (·.frame) }
  | .intercept s _ =>
    match ((Machine.callArguments s).run w).1 with
    | .ok _ => .ofCall w around
    | .error _ => {}
  | _ => {}

/-- Whether a frame is made. -/
def FrameEffect.makes (e : FrameEffect) : Bool :=
  match e.event with
  | some (.opened _) => true
  | some (.captured _) => true
  | _ => false

theorem FrameEffect.made_of_makes {e : FrameEffect} (h : e.makes) (log : FrameLog) :
    FrameLog.made (e.event.toList ++ log) = log.made + 1 := by
  unfold makes at h
  split at h
  next he => rw [he]; rfl
  next he => rw [he]; rfl
  · cases h

/-- The frame around is the one that is captured. Bodies run in it, in the new frame, or in the one
that they were kept for, and they are only kept for the new one. -/
structure FrameEffect.Fits (e : FrameEffect) (w : World) (around : Option FrameId) : Prop where
  captured : ∀ source, e.event = some (.captured source) → source = around
  enters : ∀ f, e.enters = some f → around = some f ∨ (e.makes ∧ f = w.frames.size) ∨
    ∃ name c, (w.callbacks.get? name = some c ∨ w.futures.get? name = some c) ∧ c.frame = f
  kept : e.binds.isSome ∨ e.carries.isSome → e.makes
  spawns : ∀ f, e.spawns = some (some f) → e.makes ∧ f = w.frames.size

theorem FrameEffect.Fits.empty (w : World) (around : Option FrameId) :
    ({} : FrameEffect).Fits w around := by
  constructor <;> simp

/-- A context is changed, if there is one. -/
theorem FrameEffect.Fits.changed (w : World) (around : Option FrameId)
    (change : TrafficContext → TrafficContext) :
    ({ event := around.map (.changed · change) } : FrameEffect).Fits w around := by
  constructor <;> simp

/-- A frame is made for the body that is begun. -/
theorem FrameEffect.Fits.newFrame {w : World} {around : Option FrameId} {event : FrameEvent}
    (hcaptured : ∀ source, event = .captured source → source = around)
    (hmakes : ({ event := some event } : FrameEffect).makes) :
    ({ event := some event, enters := some w.frames.size } : FrameEffect).Fits w around where
  captured source h := hcaptured source (Option.some.inj h)
  enters f hf := .inr (.inl ⟨hmakes, (Option.some.inj hf).symm⟩)
  kept := by simp
  spawns := by simp

theorem Step.fits_frameEffect (w : World) (around : Option FrameId) (s : Step) :
    (s.frameEffect w around).Fits w around := by
  unfold frameEffect
  split
  · exact .changed ..
  · split
    next f r _ => exact .changed w (some f) _
    · exact .empty ..
  · split
    · exact .newFrame (by simp) rfl
    · exact .empty ..
  · exact .newFrame (by simp) rfl
  · exact ⟨by simp, by simp, fun _ => rfl, by simp⟩
  · exact ⟨by simp, by simp, fun _ => rfl, by simp⟩
  · split
    · refine ⟨by simp, by simp, by simp, fun f hf => ?_⟩
      cases hf
      exact ⟨rfl, rfl⟩
    · exact ⟨by simp, by simp, by simp, by simp⟩
  next name thread =>
    refine ⟨by simp, fun f hf => ?_, by simp, by simp⟩
    obtain ⟨c, hc, hframe⟩ := Option.map_eq_some_iff.mp hf
    exact .inr (.inr ⟨name, c, .inl hc, hframe⟩)
  next name =>
    refine ⟨by simp, fun f hf => ?_, by simp, by simp⟩
    obtain ⟨c, hc, hframe⟩ := Option.map_eq_some_iff.mp hf
    exact .inr (.inr ⟨name, c, .inr hc, hframe⟩)
  · split
    · unfold FrameEffect.ofCall
      split
      · exact ⟨by simp, fun f hf => .inl (by simpa using hf), by simp, by simp⟩
      · exact .newFrame (by simp) rfl
    · exact .empty ..
  · exact .empty ..

/-! ## Changes of the world -/

/-- The frames of a world, and the bodies kept to run in them, change as an effect says. -/
structure FrameEffect.Changes (e : FrameEffect) (w w' : World) : Prop where
  log : ∀ log : FrameLog, log.Tells w.frames →
    FrameLog.Tells (e.event.toList ++ log) w'.frames
  callbacks : ∀ name c, w'.callbacks.get? name = some c →
    w.callbacks.get? name = some c ∨ e.binds = some name ∧ c.frame = w.frames.size
  futures : ∀ name c, w'.futures.get? name = some c →
    w.futures.get? name = some c ∨ e.carries = some name ∧ c.frame = w.frames.size

namespace FrameEffect.Changes

variable {e : FrameEffect} {w w' w'' : World}

theorem of_framing (h : w'.framing = w.framing) (he : e.event = none) : e.Changes w w' where
  log log htells := by
    have hsame : w'.frames = w.frames := congrArg Framing.frames h
    rw [he, hsame]
    exact htells
  callbacks name c hc := by
    have hsame : w'.callbacks = w.callbacks := congrArg Framing.callbacks h
    rw [hsame] at hc
    exact .inl hc
  futures name c hc := by
    have hsame : w'.futures = w.futures := congrArg Framing.futures h
    rw [hsame] at hc
    exact .inl hc

theorem framing_congr (h : e.Changes w w') (hsame : w''.framing = w'.framing) :
    e.Changes w w'' where
  log log htells := by
    have hframes : w''.frames = w'.frames := congrArg Framing.frames hsame
    rw [hframes]
    exact h.log log htells
  callbacks name c hc := by
    have hcallbacks : w''.callbacks = w'.callbacks := congrArg Framing.callbacks hsame
    rw [hcallbacks] at hc
    exact h.callbacks name c hc
  futures name c hc := by
    have hfutures : w''.futures = w'.futures := congrArg Framing.futures hsame
    rw [hfutures] at hc
    exact h.futures name c hc

theorem newFrame (w : World) {t : TrafficContext} (he : e.event = some (.opened t)) :
    e.Changes w (w.newFrame t).2 where
  log log htells := by
    rw [he]
    exact htells.push_opened { traffic := t, scopes := w.scopeStacks.size }
  callbacks _ _ hc := .inl hc
  futures _ _ hc := .inl hc

theorem tells_capture {w : World} {log : FrameLog} (h : log.Tells w.frames) (here : Place) :
    FrameLog.Tells (.captured here.frame :: log) (w.capture here).2.frames :=
  h.push_captured here.frame rfl

theorem capture (w : World) (here : Place) (he : e.event = some (.captured here.frame)) :
    e.Changes w (w.capture here).2 where
  log log htells := by
    rw [he]
    exact tells_capture htells here
  callbacks _ _ hc := .inl hc
  futures _ _ hc := .inl hc

/-- A body is kept to run later in a snapshot of the frame around. -/
theorem keep_callback (w : World) (here : Place) (name : String) (path : Path) (body : List Step)
    (he : e.event = some (.captured here.frame)) (hbinds : e.binds = some name) :
    e.Changes w { (w.capture here).2 with
      callbacks := w.callbacks.insert name { frame := w.frames.size, path, body } } where
  log := (capture w here he).log
  callbacks other c hc := by
    rw [Dictionary.get?_insert] at hc
    split at hc
    next hname =>
      cases hc
      exact .inr ⟨by rw [hbinds, hname], rfl⟩
    · exact .inl hc
  futures _ _ hc := .inl hc

theorem keep_future (w : World) (here : Place) (name : String) (path : Path) (body : List Step)
    (he : e.event = some (.captured here.frame)) (hcarries : e.carries = some name) :
    e.Changes w { (w.capture here).2 with
      futures := w.futures.insert name { frame := w.frames.size, path, body } } where
  log := (capture w here he).log
  callbacks _ _ hc := .inl hc
  futures other c hc := by
    rw [Dictionary.get?_insert] at hc
    split at hc
    next hname =>
      cases hc
      exact .inr ⟨by rw [hcarries, hname], rfl⟩
    · exact .inl hc

theorem erase_callback (w : World) (name : String) (he : e.event = none) :
    e.Changes w { w with callbacks := w.callbacks.erase name } where
  log log htells := by
    rw [he]
    exact htells
  callbacks other c hc := by
    rw [Dictionary.get?_erase] at hc
    split at hc
    · cases hc
    · exact .inl hc
  futures _ _ hc := .inl hc

theorem erase_future (w : World) (name : String) (he : e.event = none) :
    e.Changes w { w with futures := w.futures.erase name } where
  log log htells := by
    rw [he]
    exact htells
  callbacks _ _ hc := .inl hc
  futures other c hc := by
    rw [Dictionary.get?_erase] at hc
    split at hc
    · cases hc
    · exact .inl hc

/-- The context of the frame around is replaced by what a change makes of it. -/
theorem setCurrent (w : World) (here : Place) (change : TrafficContext → TrafficContext)
    {t : TrafficContext} (ht : ∀ old, w.current? here = some old → t = change old)
    (he : e.event = here.frame.map (.changed · change)) : e.Changes w (w.setCurrent here t) where
  log log htells := by
    rw [he]
    unfold World.setCurrent
    cases hframe : here.frame with
    | none => exact htells
    | some f =>
      have hsame : (w.frames.modify f fun frame => { frame with traffic := t }) =
          w.frames.modify f fun frame => { frame with traffic := change frame.traffic } := by
        refine Array.ext_getElem? fun i => ?_
        rw [Array.getElem?_modify, Array.getElem?_modify]
        split
        next hi =>
          subst hi
          cases hold : w.frames[f]? with
          | none => rfl
          | some frame =>
            have hcurrent : w.current? here = some frame.traffic := by
              rw [World.current?, World.frame?, hframe, Option.bind_some, hold]
              rfl
            rw [Option.map_some, Option.map_some, ht _ hcurrent]
        · rfl
      have hmodified := htells.modify f change
      rw [← hsame] at hmodified
      exact hmodified
  callbacks name c hc := by
    rw [World.setCurrent] at hc
    split at hc <;> exact .inl hc
  futures name c hc := by
    rw [World.setCurrent] at hc
    split at hc <;> exact .inl hc

theorem framing_setCurrent_of_none {w : World} {here : Place} (h : w.current? here = none)
    (t : TrafficContext) : (w.setCurrent here t).framing = w.framing := by
  unfold World.setCurrent
  cases hframe : here.frame with
  | none => rfl
  | some f =>
    have hf : w.frames[f]? = none := by
      have hcurrent : (w.frames[f]?).map (·.traffic) = none := by
        rw [← h, World.current?, World.frame?, hframe]
        rfl
      exact Option.map_eq_none_iff.mp hcurrent
    have hsame : (w.frames.modify f fun frame => { frame with traffic := t }) = w.frames := by
      refine Array.ext_getElem? fun i => ?_
      rw [Array.getElem?_modify]
      split
      next hi =>
        subst hi
        rw [hf]
        rfl
      · rfl
    exact congrArg (Framing.mk · w.callbacks w.futures) hsame

/-- A change of a context that is not there changes nothing. -/
theorem of_none (w : World) {here : Place} (h : w.current? here = none)
    (change : TrafficContext → TrafficContext)
    (he : e.event = here.frame.map (.changed · change)) : e.Changes w w := by
  have hset : e.Changes w (w.setCurrent here {}) := by
    refine setCurrent w here change (fun old hold => ?_) he
    rw [h] at hold
    cases hold
  exact hset.framing_congr (framing_setCurrent_of_none h {}).symm

end FrameEffect.Changes

/-! ## Turns -/

namespace Machine

/-- After a turn of a task, or without one, frames and bodies are what an effect says. -/
structure Turned (m m' : Machine) (task : Option TaskId) (e : FrameEffect) : Prop where
  world : e.Changes m.world m'.world
  /-- A body is begun in a frame of its own. -/
  enters : ∀ id f, task = some id → e.enters = some f → m'.bodies id = some f :: m.bodies id
  /-- A body is begun in the frame around, or some are left, or nothing of the kind. -/
  leaves : ∀ id, task = some id → e.enters = none →
    m'.bodies id = none :: m.bodies id ∨ ∃ n, m'.bodies id = (m.bodies id).drop n
  spawned : m'.bodies m.tasks.size = e.spawns.toList
  others : ∀ j, task ≠ some j → j ≠ m.tasks.size → m'.bodies j = m.bodies j

variable {m m' : Machine} {id : TaskId} {e : FrameEffect} {w : World}

/-- The world changes, and the task goes on or leaves some of its bodies. -/
theorem Unwinds.turned (h : Unwinds { m with world := w } m' id) (hworld : e.Changes m.world w)
    (henters : e.enters = none) (hspawns : e.spawns = none) : Turned m m' (some id) e where
  world := hworld.framing_congr h.framing
  enters j f _ hf := by
    rw [henters] at hf
    cases hf
  leaves j hj _ := by
    cases hj
    exact .inr h.own
  spawned := by
    rw [hspawns]
    exact bodies_of_size_le (Nat.le_of_eq h.size)
  others j hj _ := h.others j fun hid => hj (congrArg some hid.symm)

theorem Unwinds.turned_same (h : Unwinds m m' id) : Turned m m' (some id) {} :=
  Unwinds.turned (w := m.world) h (.of_framing rfl rfl) rfl rfl

theorem Same.turned (h : Same m m') (id : TaskId) : Turned m m' (some id) {} :=
  (h.unwinds id).turned_same

/-- Nobody's turn. -/
theorem Same.turned_idle (h : Same m m') : Turned m m' none {} where
  world := .of_framing h.framing rfl
  enters _ _ hid := by cases hid
  leaves _ hid := by cases hid
  spawned := bodies_of_size_le (Nat.le_of_eq h.size)
  others j _ _ := h.bodies j

/-- The world changes, and the task begins a body. -/
theorem Turned.push (hid : id < m.tasks.size) (hworld : e.Changes m.world w) {a : Activation}
    (henters : e.enters = a.frame) (hspawns : e.spawns = none)
    (h : Same ({ m with world := w }.push id a) m') : Turned m m' (some id) e := by
  have hbodies : m'.bodies id = a.frame :: m.bodies id := by
    rw [h.bodies]
    exact bodies_push (m := { m with world := w }) hid a
  refine ⟨hworld.framing_congr h.framing, ?_, ?_, ?_, ?_⟩
  · intro j f hj hf
    cases hj
    rw [hbodies, ← henters, hf]
  · intro j hj hnone
    cases hj
    exact .inl (by rw [hbodies, ← henters, hnone])
  · rw [hspawns]
    exact bodies_of_size_le (Nat.le_of_eq (h.size.trans (size_tasks_modifyTask ..)))
  · intro j hj _
    rw [h.bodies]
    exact bodies_modifyTask_ne (fun hid => hj (congrArg some hid.symm)) _

/-- Only frames and bodies matter of where a turn starts. -/
theorem Turned.of_same {start : Machine} (h : Same start m) (hworld : m.world = start.world)
    (h' : Turned m m' (some id) e) : Turned start m' (some id) e where
  world := hworld ▸ h'.world
  enters j f hj hf := by rw [h'.enters j f hj hf, h.bodies]
  leaves j hj hnone := by
    rw [← h.bodies]
    exact h'.leaves j hj hnone
  spawned := by
    rw [← h.size]
    exact h'.spawned
  others j hj hsize := by
    rw [← h.bodies]
    exact h'.others j hj (h.size ▸ hsize)

end Machine

end ShadowTraffic.Scenario
