import ShadowTraffic.Proofs.Scenario.Renaming

/-! # Worlds that are alike

Tokens occur in the registries of a world, in the bodies kept for later, and in what was reported.
Everything else of two worlds that are alike is the same, and these parts correspond to one another.
-/

namespace ShadowTraffic.Scenario

/-- The parts of a world in which tokens occur. -/
structure Hidden where
  registries : Array Registry
  callbacks : Dictionary Continuation
  futures : Dictionary Continuation
  reported : List Effect

namespace World

def hidden (w : World) : Hidden where
  registries := w.registries
  callbacks := w.callbacks
  futures := w.futures
  reported := w.reported

/-- The world with other such parts. -/
def put (w : World) (x : Hidden) : World :=
  { w with
    registries := x.registries
    callbacks := x.callbacks
    futures := x.futures
    reported := x.reported }

variable {ρ : TokenRenaming} {w w' : World}

/-- The same names of bodies that correspond. -/
def Kept (ρ : TokenRenaming) (d d' : Dictionary Continuation) : Prop :=
  ∀ name, d'.get? name = (d.get? name).map (Continuation.rename ρ)

theorem Kept.insert {d d' : Dictionary Continuation} (h : Kept ρ d d') (name : String)
    (c : Continuation) : Kept ρ (d.insert name c) (d'.insert name (c.rename ρ)) := by
  intro other
  rw [Dictionary.get?_insert, Dictionary.get?_insert]
  split
  · rfl
  · exact h other

theorem Kept.erase {d d' : Dictionary Continuation} (h : Kept ρ d d') (name : String) :
    Kept ρ (d.erase name) (d'.erase name) := by
  intro other
  rw [Dictionary.get?_erase, Dictionary.get?_erase]
  split
  · rfl
  · exact h other

/-- Worlds that are alike under other tokens, but for what was reported. -/
structure Alike (ρ : TokenRenaming) (w w' : World) : Prop where
  rest : w' = w.put w'.hidden
  size : w'.registries.size = w.registries.size
  registry : ∀ id, (w.registry id).Renamed ρ (w'.registry id)
  callbacks : Kept ρ w.callbacks w'.callbacks
  futures : Kept ρ w.futures w'.futures

/-- Worlds that are alike under other tokens. -/
structure Renamed (ρ : TokenRenaming) (w w' : World) : Prop extends Alike ρ w w' where
  reported : shown w'.reported = shown w.reported

theorem renamed_start : Renamed ρ {} {} where
  rest := rfl
  size := rfl
  registry _ := Registry.renamed_empty
  callbacks _ := rfl
  futures _ := rfl
  reported := rfl

namespace Alike

/-- What does not look at the parts with tokens is the same. -/
theorem read {α : Type} (h : Alike ρ w w') (f : World → α) (hf : ∀ w x, f (w.put x) = f w) :
    f w' = f w := by
  rw [h.rest, hf]

/-- A change of the other parts. -/
theorem update (h : Alike ρ w w') {f : World → World} (hput : ∀ w x, f (w.put x) = (f w).put x)
    (hhidden : ∀ w, (f w).hidden = w.hidden) : Alike ρ (f w) (f w') := by
  have hsame := hhidden w
  have hsame' := hhidden w'
  have hregistries : (f w).registries = w.registries := congrArg Hidden.registries hsame
  have hregistries' : (f w').registries = w'.registries := congrArg Hidden.registries hsame'
  refine ⟨?_, ?_, fun id => ?_, fun name => ?_, fun name => ?_⟩
  · rw [hsame', ← hput, ← h.rest]
  · rw [hregistries, hregistries']
    exact h.size
  · rw [World.registry, World.registry, hregistries, hregistries']
    exact h.registry id
  · rw [show (f w').callbacks = w'.callbacks from congrArg Hidden.callbacks hsame',
      show (f w).callbacks = w.callbacks from congrArg Hidden.callbacks hsame]
    exact h.callbacks name
  · rw [show (f w').futures = w'.futures from congrArg Hidden.futures hsame',
      show (f w).futures = w.futures from congrArg Hidden.futures hsame]
    exact h.futures name

/-- What was reported is another matter. -/
theorem withReported (h : Alike ρ w w') (effects effects' : List Effect) :
    Alike ρ { w with reported := effects } { w' with reported := effects' } := by
  refine ⟨?_, h.size, h.registry, h.callbacks, h.futures⟩
  conv_lhs => rw [h.rest]
  rfl

/-- Nothing was reported but what reads the same. -/
theorem renamed (h : Alike ρ w w') (hreported : shown w'.reported = shown w.reported) :
    Renamed ρ w w' :=
  ⟨h, hreported⟩

end Alike

namespace Renamed

theorem update (h : Renamed ρ w w') {f : World → World}
    (hput : ∀ w x, f (w.put x) = (f w).put x) (hhidden : ∀ w, (f w).hidden = w.hidden) :
    Renamed ρ (f w) (f w') := by
  refine (h.toAlike.update hput hhidden).renamed ?_
  rw [show (f w').reported = w'.reported from congrArg Hidden.reported (hhidden w'),
    show (f w).reported = w.reported from congrArg Hidden.reported (hhidden w)]
  exact h.reported

end Renamed

/-! ## Reports -/

theorem shown_filter_isReport (effects : List Effect) :
    shown (effects.filter isReport) = (shown effects).filter fun
      | .event .. => true
      | .span .. => true
      | .record .. => true
      | _ => false := by
  rw [shown, shown, List.filter_map]
  refine congrArg (List.map Effect.shown) (List.filter_congr fun e _ => ?_)
  cases e <;> rfl

theorem Alike.take (h : Alike ρ w w') {effects effects' : List Effect}
    (hmetrics : effects'.foldl Metrics.record w.metrics = effects.foldl Metrics.record w.metrics) :
    Alike ρ (w.take effects) (w'.take effects') := by
  have hsame : w'.metrics = w.metrics := h.read metrics fun _ _ => rfl
  refine ⟨?_, h.size, h.registry, h.callbacks, h.futures⟩
  have htaken : w'.take effects' =
      { w' with
        metrics := effects.foldl Metrics.record w.metrics
        reported := w'.reported ++ effects'.filter isReport } := by
    rw [World.take, hsame, hmetrics]
  rw [htaken]
  conv_lhs => rw [h.rest]
  rfl

theorem Renamed.take (h : Renamed ρ w w') {effects effects' : List Effect}
    (heffects : shown effects' = shown effects) :
    Renamed ρ (w.take effects) (w'.take effects') := by
  refine (h.toAlike.take (Metrics.foldl_record_shown heffects _)).renamed ?_
  have hfilter : shown (effects'.filter isReport) = shown (effects.filter isReport) := by
    rw [shown_filter_isReport, heffects, shown_filter_isReport]
  rw [World.take, World.take, shown_append, shown_append, h.reported, hfilter]

/-! ## What calls and the guard do -/

/-- What gives something back and changes the other parts only. -/
theorem Renamed.pair {α : Type} (h : Renamed ρ w w') {f : World → α × World}
    (hput : ∀ w x, f (w.put x) = ((f w).1, (f w).2.put x))
    (hhidden : ∀ w, (f w).2.hidden = w.hidden) :
    (f w').1 = (f w).1 ∧ Renamed ρ (f w).2 (f w').2 :=
  ⟨h.read (fun w => (f w).1) fun w x => by rw [hput],
    h.update (f := fun w => (f w).2) (fun w x => by rw [hput]) hhidden⟩

theorem Renamed.freshSpan (h : Renamed ρ w w') :
    w'.freshSpan.1 = w.freshSpan.1 ∧ Renamed ρ w.freshSpan.2 w'.freshSpan.2 :=
  h.pair (fun _ _ => rfl) fun _ => rfl

theorem Renamed.newFrame (h : Renamed ρ w w') (t : TrafficContext) :
    (w'.newFrame t).1 = (w.newFrame t).1 ∧ Renamed ρ (w.newFrame t).2 (w'.newFrame t).2 :=
  h.pair (f := (·.newFrame t)) (fun _ _ => rfl) fun _ => rfl

theorem Renamed.capture (h : Renamed ρ w w') (here : Place) :
    (w'.capture here).1 = (w.capture here).1 ∧
      Renamed ρ (w.capture here).2 (w'.capture here).2 :=
  h.pair (f := (·.capture here)) (fun _ _ => rfl) fun _ => rfl

theorem Renamed.write (h : Renamed ρ w w') (handle : Handle) (row : String) :
    (w'.write handle row).1 = (w.write handle row).1 ∧
      Renamed ρ (w.write handle row).2 (w'.write handle row).2 :=
  h.pair (f := (·.write handle row)) (fun _ _ => rfl) fun _ => rfl

theorem Renamed.closeHandle (h : Renamed ρ w w') (handle : Option Handle) :
    (w'.closeHandle handle).1 = (w.closeHandle handle).1 ∧
      Renamed ρ (w.closeHandle handle).2 (w'.closeHandle handle).2 := by
  refine h.pair (f := (·.closeHandle handle)) (fun w x => ?_) fun w => ?_
  · cases handle <;> rfl
  · cases handle <;> rfl

theorem Renamed.tryEnter (h : Renamed ρ w w') (stack : StackId) (boundary : String)
    (policy : Policy) :
    (w'.tryEnter stack boundary policy).1 = (w.tryEnter stack boundary policy).1 ∧
      Renamed ρ (w.tryEnter stack boundary policy).2 (w'.tryEnter stack boundary policy).2 := by
  have hscopes : w'.scopes stack = w.scopes stack := h.read (·.scopes stack) fun _ _ => rfl
  unfold World.tryEnter
  rw [hscopes]
  refine ⟨rfl, ?_⟩
  exact (h.update (f := (·.setScopes stack ((w.scopes stack).tryEnter boundary policy).2))
    (fun _ _ => rfl) fun _ => rfl).take rfl

theorem Renamed.enter (h : Renamed ρ w w') (stack : StackId) (boundary : String)
    (policy : Policy) :
    (w'.enter stack boundary policy).1 = (w.enter stack boundary policy).1 ∧
      Renamed ρ (w.enter stack boundary policy).2 (w'.enter stack boundary policy).2 := by
  obtain ⟨hentered, hworld⟩ := h.tryEnter stack boundary policy
  exact ⟨congrArg (Ticket.mk boundary policy) hentered, hworld⟩

theorem Renamed.dropTicket (h : Renamed ρ w w') (stack : StackId) (t : Ticket) :
    Renamed ρ (w.dropTicket stack t) (w'.dropTicket stack t) := by
  have hscopes : w'.scopes stack = w.scopes stack := h.read (·.scopes stack) fun _ _ => rfl
  unfold World.dropTicket
  rw [hscopes]
  exact (h.update (f := (·.setScopes stack ((w.scopes stack).exit t).1))
    (fun _ _ => rfl) fun _ => rfl).take rfl

/-! ## Bodies kept for later -/

theorem Renamed.withCallbacks (h : Renamed ρ w w') {d d' : Dictionary Continuation}
    (hd : Kept ρ d d') : Renamed ρ { w with callbacks := d } { w' with callbacks := d' } := by
  refine ⟨⟨?_, h.size, h.registry, hd, h.futures⟩, h.reported⟩
  conv_lhs => rw [h.rest]
  rfl

theorem Renamed.withFutures (h : Renamed ρ w w') {d d' : Dictionary Continuation}
    (hd : Kept ρ d d') : Renamed ρ { w with futures := d } { w' with futures := d' } := by
  refine ⟨⟨?_, h.size, h.registry, h.callbacks, hd⟩, h.reported⟩
  conv_lhs => rw [h.rest]
  rfl

/-! ## Registries -/

theorem Alike.setRegistry (h : Alike ρ w w') (id : RegistryId) {r r' : Registry}
    (hr : r.Renamed ρ r') : Alike ρ (w.setRegistry id r) (w'.setRegistry id r') := by
  refine ⟨?_, ?_, fun other => ?_, h.callbacks, h.futures⟩
  · conv_lhs => rw [h.rest]
    rfl
  · rw [World.setRegistry, World.setRegistry, Array.size_setIfInBounds, Array.size_setIfInBounds]
    exact h.size
  · have hother := h.registry other
    simp only [World.registry] at hother
    simp only [World.registry, World.setRegistry, Array.getElem?_setIfInBounds, h.size]
    split
    · split
      · exact hr
      · exact Registry.renamed_empty
    · exact hother

theorem Renamed.setRegistry (h : Renamed ρ w w') (id : RegistryId) {r r' : Registry}
    (hr : r.Renamed ρ r') : Renamed ρ (w.setRegistry id r) (w'.setRegistry id r') :=
  (h.toAlike.setRegistry id hr).renamed h.reported

theorem Renamed.takeStretch (h : Renamed ρ w w') (id : RegistryId) {α : Type} {rename : α → α}
    {s s' : Stretch α} (hs : s.Renamed ρ rename s') :
    Renamed ρ (w.takeStretch id s) (w'.takeStretch id s') :=
  (h.setRegistry id hs.registry).take hs.effects

/-- A registry more in both. -/
theorem Renamed.newRegistry (h : Renamed ρ w w') :
    Renamed ρ { w with registries := w.registries.push {} }
      { w' with registries := w'.registries.push {} } := by
  refine ⟨⟨?_, ?_, fun id => ?_, h.callbacks, h.futures⟩, h.reported⟩
  · conv_lhs => rw [h.rest]
    rfl
  · rw [Array.size_push, Array.size_push, h.size]
  · have hother := h.registry id
    simp only [World.registry] at hother
    simp only [World.registry, Array.getElem?_push, h.size]
    split
    · exact Registry.renamed_empty
    · exact hother

theorem Alike.mediator? (h : Alike ρ w w') (place : RegistryId × SlotId) :
    w'.mediator? place = (w.mediator? place).map (Mediator.rename ρ) :=
  (h.registry place.1).mediator? place.2

theorem Renamed.keepMediator (h : Renamed ρ w w') (name : Option String)
    (place : RegistryId × SlotId) :
    Renamed ρ (w.keepMediator name place) (w'.keepMediator name place) := by
  cases name with
  | none => exact h
  | some name =>
    exact h.update (f := (·.keepMediator (some name) place)) (fun _ _ => rfl) fun _ => rfl

/-- The same registries go, and the same is reported of them. -/
theorem Alike.sweep (h : Alike ρ w w') (used : List RegistryId) :
    Alike ρ (w.sweep used) (w'.sweep used) ∧
      ∃ more, (w.sweep used).reported = w.reported ++ more ∧
        (w'.sweep used).reported = w'.reported ++ more := by
  unfold World.sweep
  rw [h.size]
  generalize List.range w.registries.size = ids
  induction ids generalizing w w' with
  | nil => exact ⟨h, [], (List.append_nil _).symm, (List.append_nil _).symm⟩
  | cons id ids ih =>
    rw [List.foldl_cons, List.foldl_cons]
    have hdropped : w'.dropped = w.dropped := h.read dropped fun _ _ => rfl
    have hnamed : w'.isNamed id = w.isNamed id := h.read (·.isNamed id) fun _ _ => rfl
    rw [hdropped, hnamed]
    split
    · exact ih h
    · rw [(h.registry id).dropEffects]
      have htaken : Alike ρ (w.take (w.registry id).dropEffects)
          (w'.take (w.registry id).dropEffects) := h.take rfl
      have hgone := htaken.update (f := fun v => { v with dropped := id :: w.dropped })
        (fun _ _ => rfl) fun _ => rfl
      obtain ⟨hrest, more, hreported, hreported'⟩ := ih hgone
      refine ⟨hrest, (w.registry id).dropEffects.filter isReport ++ more, ?_, ?_⟩
      · rw [← List.append_assoc]
        exact hreported
      · rw [← List.append_assoc]
        exact hreported'

theorem Renamed.invalidate (h : Renamed ρ w w') (id : RegistryId) (i : Identity) :
    (w'.invalidate id (i.rename ρ)).1 = (w.invalidate id i).1 ∧
      Renamed ρ (w.invalidate id i).2 (w'.invalidate id (i.rename ρ)).2 := by
  have hstart := Invalidate.renamed_start (h.registry id) i
  unfold World.invalidate
  dsimp only
  generalize Invalidate.start (w.registry id) i = s at hstart ⊢
  generalize Invalidate.start (w'.registry id) (i.rename ρ) = s' at hstart ⊢
  have htaken := h.takeStretch id hstart
  rw [hstart.outcome]
  cases s.outcome with
  | done found => exact ⟨rfl, htaken⟩
  | closing m =>
    dsimp only [InvalidateOutcome.rename]
    rw [Mediator.shadow_rename]
    obtain ⟨hfailure, hclosed⟩ := htaken.closeHandle m.shadow
    generalize (w.takeStretch id s).closeHandle m.shadow = closed at hfailure hclosed ⊢
    generalize (w'.takeStretch id s').closeHandle m.shadow = closed' at hfailure hclosed ⊢
    obtain ⟨failure, v⟩ := closed
    obtain ⟨failure', v'⟩ := closed'
    dsimp only at hfailure hclosed ⊢
    subst hfailure
    exact ⟨rfl, hclosed.takeStretch id (Invalidate.renamed_closed (hclosed.registry id) i m _)⟩

/-- A release has the same answer, leaves worlds that are alike, and reports the same, but for the
order in which it tells of the mediators that it closes. -/
theorem Renamed.release (h : Renamed ρ w w') (id : RegistryId) :
    (w'.release id).1 = (w.release id).1 ∧ Alike ρ (w.release id).2 (w'.release id).2 ∧
      Reordered (w.release id).2.reported (w'.release id).2.reported := by
  have hhandles : w'.handles = w.handles := h.read handles fun _ _ => rfl
  have hspans : w'.spans = w.spans := h.read spans fun _ _ => rfl
  have hbegun : Draining.Renamed ρ (Draining.begun w id) (Draining.begun w' id) :=
    ⟨⟨(h.registry id).cells, [], .nil, .nil⟩, hhandles, rfl, .nil⟩
  have hdrained := hbegun.foldl (h.registry id).perm_slots
  have htell := Draining.tellsClosing_foldl (d := Draining.begun w id) (by simp [Draining.begun])
    ((w.registry id).slots.entries.map (·.2))
  have htell' := Draining.tellsClosing_foldl (d := Draining.begun w' id) (by simp [Draining.begun])
    ((w'.registry id).slots.entries.map (·.2))
  have hopened : Renamed ρ (Draining.opened w) (Draining.opened w') := by
    rw [Draining.opened, Draining.opened, hspans]
    exact (h.update (f := fun v => { v with spans := w.spans + 1 }) (fun _ _ => rfl)
      fun _ => rfl).take rfl
  rw [Draining.release_eq, Draining.release_eq]
  generalize List.foldl Draining.close (Draining.begun w id) _ = d at hdrained htell ⊢
  generalize List.foldl Draining.close (Draining.begun w' id) _ = d' at hdrained htell' ⊢
  dsimp only
  rw [hdrained.count]
  refine ⟨rfl, ?_, ?_⟩
  · have hset := (hopened.toAlike.update (f := fun v => { v with handles := d.handles })
      (fun _ _ => rfl) fun _ => rfl).setRegistry id hdrained.registry
    unfold Draining.world
    rw [hdrained.handles]
    refine hset.take ?_
    rw [List.foldl_append, List.foldl_append, Metrics.foldl_record_tellsClosing htell,
      Metrics.foldl_record_tellsClosing htell']
  · have hreported (effects : List Effect) (heffects : ∀ e ∈ effects, e.tellsClosing) :
        effects.filter isReport = effects := by
      refine List.filter_eq_self.mpr fun e he => ?_
      have htells := heffects e he
      cases e with
      | noticed n => rfl
      | _ => cases htells
    refine ⟨(Draining.opened w).reported, d.effects, (Draining.ending d.count).filter isReport,
      (Draining.opened w').reported, d'.effects, (Draining.ending d.count).filter isReport,
      ?_, ?_, hopened.reported, hdrained.effects, rfl, htell⟩
    · rw [List.append_assoc]
      conv_rhs => rw [← hreported d.effects htell, ← List.filter_append]
      rfl
    · rw [List.append_assoc]
      conv_rhs => rw [← hreported d'.effects htell', ← List.filter_append]
      rfl

end World

end ShadowTraffic.Scenario
