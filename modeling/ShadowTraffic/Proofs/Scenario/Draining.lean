import ShadowTraffic.Proofs.Registry.Renaming
import ShadowTraffic.Scenario.Registries

/-! # The order in which a release closes

A release closes what the map held, one slot after the other. In which order does not matter: the
same mediators are released, the same handles are closed as often, and the same is reported, in
another order.
-/

namespace ShadowTraffic.Scenario

/-- Closes a handle, as the world does. -/
def shut (handles : Dictionary HandleState) :
    Option Handle → Option ProvisionError × Dictionary HandleState
  | none => (none, handles)
  | some h =>
    let s := (handles.get? h).getD {}
    (if s.closeFails then some (.connection (h ++ " will not close")) else none,
      handles.insert h { s with closes := s.closes + 1 })

theorem World.closeHandle_eq (w : World) (h : Option Handle) :
    w.closeHandle h =
      ((shut w.handles h).1, { w with handles := (shut w.handles h).2 }) := by
  cases h <;> rfl

variable {handles : Dictionary HandleState} {h k : Option Handle}

theorem get?_shut_some (handles : Dictionary HandleState) (h other : Handle) :
    (shut handles (some h)).2.get? other =
      if other = h then
        some { (handles.get? h).getD {} with closes := ((handles.get? h).getD {}).closes + 1 }
      else handles.get? other :=
  Dictionary.get?_insert ..

/-- Whether a handle refuses to close does not depend on what was closed before. -/
theorem shut_failure (handles : Dictionary HandleState) (h k : Option Handle) :
    (shut (shut handles k).2 h).1 = (shut handles h).1 := by
  cases h with
  | none => rfl
  | some h =>
    cases k with
    | none => rfl
    | some k =>
      have hfails : (((shut handles (some k)).2.get? h).getD {}).closeFails =
          ((handles.get? h).getD {}).closeFails := by
        rw [get?_shut_some]
        split
        next hk => rw [hk]; rfl
        · rfl
      show (if _ then _ else _) = (if _ then _ else _)
      rw [hfails]

theorem shut_comm (handles : Dictionary HandleState) (h k : Option Handle) :
    (shut (shut handles h).2 k).2 = (shut (shut handles k).2 h).2 := by
  cases h with
  | none => rfl
  | some h =>
    cases k with
    | none => rfl
    | some k =>
      by_cases hk : h = k
      · rw [hk]
      · refine Dictionary.ext_get? fun other => ?_
        simp only [get?_shut_some, Ne.symm hk, hk, if_false]
        split
        next hother => simp [hother, Ne.symm hk]
        · rfl

/-! ## Closing one slot after the other -/

/-- How far a release has come. -/
structure Draining where
  registry : Registry
  handles : Dictionary HandleState
  count : Nat := 0
  effects : List Effect := []

namespace Draining

/-- The mediator of a slot that has not been released. -/
def live? (r : Registry) (slot : SlotId) : Option Mediator :=
  (r.mediator? slot).filter fun m => !m.released

def close (d : Draining) (slot : SlotId) : Draining :=
  match live? d.registry slot with
  | none => d
  | some m =>
    { registry := d.registry.setCell slot (.built { m with released := true })
      handles := (shut d.handles m.shadow).2
      count := d.count + 1
      effects := d.effects ++ closeEffects m (shut d.handles m.shadow).1 }

/-- Equally far, but for the order of what was reported. -/
structure Same (d d' : Draining) : Prop where
  registry : d'.registry = d.registry
  handles : d'.handles = d.handles
  count : d'.count = d.count
  effects : d'.effects.Perm d.effects

variable {d d' d'' : Draining} {slots slots' : List SlotId}

theorem Same.refl (d : Draining) : Same d d := ⟨rfl, rfl, rfl, .refl _⟩

theorem Same.trans (h : Same d d') (h' : Same d' d'') : Same d d'' where
  registry := h'.registry.trans h.registry
  handles := h'.handles.trans h.handles
  count := h'.count.trans h.count
  effects := h'.effects.trans h.effects

theorem Same.close (h : Same d d') (slot : SlotId) : Same (d.close slot) (d'.close slot) := by
  unfold Draining.close
  rw [h.registry, h.handles, h.count]
  split
  · exact h
  · exact ⟨rfl, rfl, rfl, h.effects.append_right _⟩

theorem Same.foldl (h : Same d d') (slots : List SlotId) :
    Same (slots.foldl Draining.close d) (slots.foldl Draining.close d') := by
  induction slots generalizing d d' with
  | nil => exact h
  | cons slot slots ih => exact ih (h.close slot)

/-! ### Two slots in either order -/

theorem live?_setCell_ne {r : Registry} {slot other : SlotId} (h : other ≠ slot) (c : Cell) :
    live? (r.setCell slot c) other = live? r other := by
  have hcell : (r.setCell slot c).cell other = r.cell other := by
    rw [Registry.cell, Registry.setCell, Array.getElem?_setIfInBounds_ne (Ne.symm h),
      Registry.cell]
  rw [live?, Registry.mediator?, hcell, live?, Registry.mediator?]

theorem setCell_comm (r : Registry) {slot other : SlotId} (h : slot ≠ other) (c c' : Cell) :
    (r.setCell slot c).setCell other c' = (r.setCell other c').setCell slot c := by
  simp only [Registry.setCell, Array.setIfInBounds_comm c c' h]

theorem close_of_none {d : Draining} {slot : SlotId} (h : live? d.registry slot = none) :
    d.close slot = d := by
  rw [close, h]

theorem close_of_some {d : Draining} {slot : SlotId} {m : Mediator}
    (h : live? d.registry slot = some m) :
    d.close slot = {
      registry := d.registry.setCell slot (.built { m with released := true })
      handles := (shut d.handles m.shadow).2
      count := d.count + 1
      effects := d.effects ++ closeEffects m (shut d.handles m.shadow).1 } := by
  rw [close, h]

/-- What another slot holds is not touched. -/
theorem live?_close_ne (d : Draining) {slot other : SlotId} (h : other ≠ slot) :
    live? (d.close slot).registry other = live? d.registry other := by
  cases hslot : live? d.registry slot with
  | none => rw [close_of_none hslot]
  | some m =>
    rw [close_of_some hslot]
    exact live?_setCell_ne h _

/-- Two slots may be closed in either order. -/
theorem close_comm (d : Draining) (slot other : SlotId) :
    Same ((d.close slot).close other) ((d.close other).close slot) := by
  by_cases hne : slot = other
  · rw [hne]
    exact .refl _
  have hslot' := live?_close_ne d hne
  have hother' := live?_close_ne d (Ne.symm hne)
  cases hslot : live? d.registry slot with
  | none =>
    rw [hslot] at hslot'
    rw [close_of_none hslot, close_of_none hslot']
    exact .refl _
  | some m =>
    cases hother : live? d.registry other with
    | none =>
      rw [hother] at hother'
      rw [close_of_none hother, close_of_none hother']
      exact .refl _
    | some m' =>
      rw [hslot] at hslot'
      rw [hother] at hother'
      rw [close_of_some hother', close_of_some hslot', close_of_some hslot, close_of_some hother]
      refine ⟨(setCell_comm d.registry hne _ _).symm, (shut_comm _ _ _).symm, rfl, ?_⟩
      dsimp only
      rw [shut_failure, shut_failure, List.append_assoc, List.append_assoc]
      exact List.perm_append_comm.append_left d.effects

theorem foldl_perm (h : slots.Perm slots') (d : Draining) :
    Same (slots.foldl Draining.close d) (slots'.foldl Draining.close d) := by
  induction h generalizing d with
  | nil => exact .refl d
  | cons slot _ ih => exact ih (d.close slot)
  | swap slot other slots => exact (close_comm d other slot).foldl slots
  | trans _ _ ih ih' => exact (ih d).trans (ih' d)

/-! ### A release -/

theorem beginClose_eq (r : Registry) (slot : SlotId) :
    r.beginClose slot =
      match live? r slot with
      | none => (.nothing, r)
      | some m =>
        (if m.shadow.isSome then .shadow m else .closed m,
          r.setCell slot (.built { m with released := true })) := by
  unfold Registry.beginClose live? Registry.mediator?
  cases hcell : r.cell slot with
  | vacant => rfl
  | building holder queue => rfl
  | built m =>
    dsimp only
    cases hreleased : m.released with
    | true => simp [Option.filter, hreleased]
    | false => simp [Option.filter, hreleased, Registry.markReleased, hcell]

/-- What the end of a release reports. -/
def ending (count : Nat) : List Effect :=
  .activeSet 0 :: if count > 0 then [.noticed (.registryReleased count)] else []

/-- The world when a release has come so far. -/
def world (d : Draining) (w : World) (id : RegistryId) (effects : List Effect) : World :=
  ({ w with handles := d.handles }.setRegistry id d.registry).take effects

theorem take_take (w : World) (effects more : List Effect) :
    (w.take effects).take more = w.take (effects ++ more) := by
  simp only [World.take, List.foldl_append, List.filter_append, List.append_assoc]

theorem takeStretch_after {α : Type} (w : World) (id : RegistryId) (s : Stretch α)
    (effects : List Effect) :
    w.takeStretch id (s.after effects) = (w.take effects).takeStretch id s :=
  (take_take (w.setRegistry id s.registry) effects s.effects).symm

/-- Of two stretches of one registry, the last leaves it. -/
theorem takeStretch_setRegistry {α : Type} (w : World) (id : RegistryId) (r : Registry)
    (s : Stretch α) : (w.setRegistry id r).takeStretch id s = w.takeStretch id s := by
  have hlast : (w.setRegistry id r).setRegistry id s.registry = w.setRegistry id s.registry := by
    simp only [World.setRegistry, Array.setIfInBounds_setIfInBounds]
  rw [World.takeStretch, hlast, World.takeStretch]

theorem take_nil (w : World) : w.take [] = w := by
  simp [World.take]

/-- A shadow is closed and the rest follows. -/
theorem finishRelease_closing {w : World} {id : RegistryId} (hid : id < w.registries.size)
    (r : Registry) (m : Mediator) (rest : List SlotId) (count bound : Nat) :
    World.finishRelease id (bound + 1) (w.setRegistry id r) (.closing m rest count) =
      let s := (Release.drain r count rest).after (closeEffects m (shut w.handles m.shadow).1)
      World.finishRelease id bound
        ({ w with handles := (shut w.handles m.shadow).2 }.takeStretch id s) s.outcome := by
  have hregistry : ({ w with handles := (shut w.handles m.shadow).2 }.setRegistry id r).registry
      id = r := by
    simp [World.registry, World.setRegistry, hid]
  have hstep : World.finishRelease id (bound + 1) (w.setRegistry id r) (.closing m rest count) =
      let v := { w with handles := (shut w.handles m.shadow).2 }.setRegistry id r
      let s := Release.closed (v.registry id) m rest count (shut w.handles m.shadow).1
      World.finishRelease id bound (v.takeStretch id s) s.outcome := by
    rw [World.finishRelease, World.closeHandle_eq]
    rfl
  rw [hstep]
  dsimp only
  rw [hregistry, takeStretch_setRegistry]
  rfl

/-- A release closes the slots one after the other. -/
theorem finishRelease_eq {w : World} {id : RegistryId} {slots : List SlotId}
    (hid : slots ≠ [] → id < w.registries.size) (d : Draining) {bound : Nat}
    (hbound : slots.length ≤ bound) :
    World.finishRelease id bound
        (({ w with handles := d.handles }.take d.effects).takeStretch id
          (Release.drain d.registry d.count slots))
        (Release.drain d.registry d.count slots).outcome =
      let d' := slots.foldl close d
      (d'.count, d'.world w id (d'.effects ++ ending d'.count)) := by
  induction slots generalizing d bound with
  | nil =>
    have hdone : (Release.drain d.registry d.count []).outcome = .done d.count := rfl
    rw [hdone, World.finishRelease]
    refine Prod.ext rfl ?_
    exact take_take ({ w with handles := d.handles }.setRegistry id d.registry) d.effects _
  | cons slot rest ih =>
    have hid := hid (List.cons_ne_nil slot rest)
    have ih := ih fun _ => hid
    rw [List.foldl_cons]
    have hrest : rest.length ≤ bound :=
      Nat.le_trans (Nat.le_of_lt (Nat.lt_succ_self rest.length)) hbound
    unfold Release.drain
    rw [beginClose_eq]
    cases hlive : live? d.registry slot with
    | none =>
      rw [close_of_none hlive]
      exact ih d hrest
    | some m =>
      obtain ⟨identity, config, business, shadow, released⟩ := m
      have hclosed := close_of_some hlive
      cases shadow with
      | none =>
        have hnext := ih (d.close slot) hrest
        rw [hclosed] at hnext ⊢
        rw [← take_take, ← takeStretch_after] at hnext
        exact hnext
      | some h =>
        obtain ⟨bound, rfl⟩ := Nat.exists_eq_succ_of_ne_zero
          (Nat.ne_of_gt (Nat.lt_of_lt_of_le (Nat.succ_pos rest.length) hbound))
        have hnext := ih (d.close slot) (Nat.le_of_succ_le_succ hbound)
        rw [hclosed] at hnext ⊢
        rw [← take_take, ← takeStretch_after] at hnext
        have hclosing := finishRelease_closing (w := { w with handles := d.handles }.take d.effects)
          hid (d.registry.setCell slot (.built ⟨identity, config, business, some h, true⟩))
          ⟨identity, config, business, some h, released⟩ rest (d.count + 1) bound
        rw [← take_nil (World.setRegistry _ _ _)] at hclosing
        exact hclosing.trans hnext

/-- A release that begins with an emptied map. -/
def begun (w : World) (id : RegistryId) : Draining where
  registry := { w.registry id with slots := .empty }
  handles := w.handles

/-- The world inside the span of a release. -/
def opened (w : World) : World :=
  { w with spans := w.spans + 1 }.take [.opened w.spans (.component "registry")]

/-- What a release does: it closes what was in the map. -/
theorem release_eq (w : World) (id : RegistryId) :
    w.release id =
      let d := ((w.registry id).slots.entries.map (·.2)).foldl close (begun w id)
      (d.count, d.world (opened w) id (d.effects ++ ending d.count)) := by
  have hid : (w.registry id).slots.entries.map (·.2) ≠ [] → id < w.registries.size := by
    intro hslots
    by_contra hsize
    have hnone : w.registries[id]? = none := Array.getElem?_eq_none (Nat.le_of_not_lt hsize)
    rw [World.registry, hnone] at hslots
    exact hslots rfl
  have hbound : ((w.registry id).slots.entries.map (·.2)).length ≤ (w.registry id).size + 1 := by
    rw [List.length_map]
    exact Nat.le_succ _
  have hfinished := finishRelease_eq (w := opened w) hid (begun w id) hbound
  rw [show (begun w id).effects = [] from rfl, take_nil] at hfinished
  have hstart : w.release id =
      let s := Release.drain (begun w id).registry 0 ((w.registry id).slots.entries.map (·.2))
      World.finishRelease id ((w.registry id).size + 1)
        ({ w with spans := w.spans + 1 }.takeStretch id
          (s.after [.opened w.spans (.component "registry")])) s.outcome := rfl
  rw [hstart]
  dsimp only
  rw [takeStretch_after]
  exact hfinished

theorem tellsClosing_closeEffects (m : Mediator) (failure : Option ProvisionError) :
    ∀ e ∈ closeEffects m failure, e.tellsClosing := by
  cases failure <;> simp [closeEffects, Effect.tellsClosing]

/-- Closing slots reports nothing else. -/
theorem tellsClosing_foldl (h : ∀ e ∈ d.effects, e.tellsClosing) (slots : List SlotId) :
    ∀ e ∈ (slots.foldl close d).effects, e.tellsClosing := by
  induction slots generalizing d with
  | nil => exact h
  | cons slot slots ih =>
    refine ih ?_
    cases hlive : live? d.registry slot with
    | none =>
      rw [close_of_none hlive]
      exact h
    | some m =>
      rw [close_of_some hlive]
      intro e he
      rcases List.mem_append.mp he with hold | hnew
      · exact h e hold
      · exact tellsClosing_closeEffects m _ e hnew

/-! ### Other tokens -/

variable {ρ : TokenRenaming}

/-- Equally far under other tokens, but for the order of what was reported. -/
structure Renamed (ρ : TokenRenaming) (d d' : Draining) : Prop where
  registry : Registry.Renamed ρ d.registry d'.registry
  handles : d'.handles = d.handles
  count : d'.count = d.count
  effects : (shown d'.effects).Perm (shown d.effects)

theorem Renamed.same (h : Renamed ρ d d') (h' : Same d' d'') : Renamed ρ d d'' where
  registry := h'.registry.symm ▸ h.registry
  handles := h'.handles.trans h.handles
  count := h'.count.trans h.count
  effects := (h'.effects.map Effect.shown).trans h.effects

theorem Renamed.close (h : Renamed ρ d d') (slot : SlotId) :
    Renamed ρ (d.close slot) (d'.close slot) := by
  have hlive : live? d'.registry slot = (live? d.registry slot).map (Mediator.rename ρ) := by
    rw [live?, h.registry.mediator?, live?, Option.filter_map]
    rfl
  cases hslot : live? d.registry slot with
  | none =>
    rw [hslot] at hlive
    rw [close_of_none hslot, close_of_none hlive]
    exact h
  | some m =>
    rw [hslot] at hlive
    rw [close_of_some hslot, close_of_some hlive]
    refine ⟨h.registry.setCell slot (.built { m with released := true }), ?_, ?_, ?_⟩
    · rw [h.handles, Mediator.shadow_rename]
    · rw [h.count]
    · dsimp only
      rw [shown_append, shown_append, h.handles, Mediator.shadow_rename, shown_closeEffects]
      exact h.effects.append_right _

theorem Renamed.closeAll (h : Renamed ρ d d') (slots : List SlotId) :
    Renamed ρ (slots.foldl Draining.close d) (slots.foldl Draining.close d') := by
  induction slots generalizing d d' with
  | nil => exact h
  | cons slot slots ih => exact ih (h.close slot)

/-- The slots of two maps that are alike may come in different orders. -/
theorem Renamed.foldl (h : Renamed ρ d d') (hslots : slots'.Perm slots) :
    Renamed ρ (slots.foldl Draining.close d) (slots'.foldl Draining.close d') :=
  (h.closeAll slots).same (foldl_perm hslots.symm d')

end Draining

end ShadowTraffic.Scenario
