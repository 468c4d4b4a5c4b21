import ShadowTraffic.Proofs.Telemetry.Shown
import ShadowTraffic.Proofs.Writes
import ShadowTraffic.Registry.Operation

/-! # A registry under other tokens

Two registries are alike up to other tokens when their slots hold the same up to these, and their
maps lead from corresponding identities to the same slots. The keys contain the tokens, so the
entries of the two maps may come in different orders. Every stretch of an operation keeps the two
alike, has corresponding outcomes, and reports what cannot be told apart.
-/

namespace ShadowTraffic

variable {ρ : TokenRenaming}

/-! ## What the slots hold -/

def Mediator.rename (ρ : TokenRenaming) (m : Mediator) : Mediator :=
  { m with identity := m.identity.rename ρ, config := m.config.rename ρ }

def Cell.rename (ρ : TokenRenaming) : Cell → Cell
  | vacant => .vacant
  | building holder queue => .building holder queue
  | built m => .built (m.rename ρ)

def Request.rename (ρ : TokenRenaming) (q : Request) : Request :=
  { q with identity := q.identity.rename ρ, config := q.config.rename ρ }

def FetchPhase.rename (ρ : TokenRenaming) : FetchPhase → FetchPhase
  | waiting slot => .waiting slot
  | building slot span => .building slot span
  | closing slot m => .closing slot (m.rename ρ)

def FetchOutcome.rename (ρ : TokenRenaming) : FetchOutcome → FetchOutcome
  | pending phase => .pending (phase.rename ρ)
  | got slot => .got slot

def InvalidateOutcome.rename (ρ : TokenRenaming) : InvalidateOutcome → InvalidateOutcome
  | closing m => .closing (m.rename ρ)
  | done found => .done found

def Closing.rename (ρ : TokenRenaming) : Closing → Closing
  | nothing => .nothing
  | closed m => .closed (m.rename ρ)
  | shadow m => .shadow (m.rename ρ)

@[simp] theorem Mediator.builtFrom_rename (m : Mediator) (config : Descriptor) :
    (m.rename ρ).builtFrom (config.rename ρ) = m.builtFrom config :=
  Descriptor.rename_beq ..

@[simp] theorem Mediator.identity_rename (m : Mediator) :
    (m.rename ρ).identity = m.identity.rename ρ := rfl

@[simp] theorem Mediator.shadow_rename (m : Mediator) : (m.rename ρ).shadow = m.shadow := rfl

@[simp] theorem Mediator.released_rename (m : Mediator) :
    (m.rename ρ).released = m.released := rfl

theorem shown_closeEffects (m : Mediator) (failure : Option ProvisionError) :
    shown (closeEffects (m.rename ρ) failure) = shown (closeEffects m failure) := by
  cases failure <;>
    simp [closeEffects, Effect.shown, Notice.level, Notice.target, Notice.message, Notice.fields]

/-! ## Registries -/

namespace Registry

/-- The same slots under corresponding identities, and the same in them. -/
structure Renamed (ρ : TokenRenaming) (r r' : Registry) : Prop where
  cells : r'.cells = r.cells.map (Cell.rename ρ)
  slots : ∃ owned : List (Identity × SlotId),
    r.slots.entries.Perm (owned.map fun e => (e.1.key, e.2)) ∧
      r'.slots.entries.Perm (owned.map fun e => ((e.1.rename ρ).key, e.2))

theorem renamed_empty : Renamed ρ {} {} := ⟨by simp, [], .nil, .nil⟩

end Registry

namespace Registry.Renamed

variable {r r' : Registry}

theorem cell (h : Renamed ρ r r') (slot : SlotId) : r'.cell slot = (r.cell slot).rename ρ := by
  rw [Registry.cell, h.cells, Array.getElem?_map, Registry.cell]
  cases r.cells[slot]? <;> rfl

theorem mediator? (h : Renamed ρ r r') (slot : SlotId) :
    r'.mediator? slot = (r.mediator? slot).map (Mediator.rename ρ) := by
  rw [Registry.mediator?, h.cell, Registry.mediator?]
  cases r.cell slot <;> rfl

theorem size_cells (h : Renamed ρ r r') : r'.cells.size = r.cells.size := by
  rw [h.cells, Array.size_map]

theorem setCell (h : Renamed ρ r r') (slot : SlotId) (c : Cell) :
    Renamed ρ (r.setCell slot c) (r'.setCell slot (c.rename ρ)) where
  cells := by
    rw [Registry.setCell, Registry.setCell, h.cells]
    refine Array.ext_getElem? fun i => ?_
    simp only [Array.getElem?_map, Array.getElem?_setIfInBounds, Array.size_map]
    split
    · split <;> rfl
    · rfl
  slots := h.slots

/-- Corresponding identities own the same slot. -/
theorem slot? (h : Renamed ρ r r') (i : Identity) : r'.slot? (i.rename ρ) = r.slot? i := by
  obtain ⟨owned, hslots, hslots'⟩ := h.slots
  refine Option.ext fun slot => ?_
  have hleft : r'.slot? (i.rename ρ) = some slot ↔ (i, slot) ∈ owned := by
    rw [Registry.slot?, Dictionary.get?_eq_some, hslots'.mem_iff, List.mem_map]
    refine ⟨?_, fun hmem => ⟨(i, slot), hmem, rfl⟩⟩
    rintro ⟨e, hmem, he⟩
    have hi : e.1 = i := Identity.key_rename_eq_iff.mp (congrArg Prod.fst he)
    have hslot : e.2 = slot := congrArg Prod.snd he
    rwa [← hi, ← hslot]
  have hright : r.slot? i = some slot ↔ (i, slot) ∈ owned := by
    rw [Registry.slot?, Dictionary.get?_eq_some, hslots.mem_iff, List.mem_map]
    refine ⟨?_, fun hmem => ⟨(i, slot), hmem, rfl⟩⟩
    rintro ⟨e, hmem, he⟩
    have hi : e.1 = i := Identity.key_eq_iff.mp (congrArg Prod.fst he)
    have hslot : e.2 = slot := congrArg Prod.snd he
    rwa [← hi, ← hslot]
  rw [hleft, hright]

theorem lookup (h : Renamed ρ r r') (i : Identity) : r'.lookup (i.rename ρ) = r.lookup i := by
  have hfilled (slot : SlotId) : (r'.mediator? slot).isSome = (r.mediator? slot).isSome := by
    rw [h.mediator?, Option.isSome_map]
  simp only [Registry.lookup, h.slot?, hfilled]

theorem owns (h : Renamed ρ r r') (i : Identity) (slot : SlotId) :
    r'.owns (i.rename ρ) slot = r.owns i slot := by
  rw [Registry.owns, h.slot?, Registry.owns]

/-- The slots in the map are the same, in some order. -/
theorem perm_slots (h : Renamed ρ r r') :
    (r'.slots.entries.map (·.2)).Perm (r.slots.entries.map (·.2)) := by
  obtain ⟨owned, hslots, hslots'⟩ := h.slots
  have hleft := hslots'.map (·.2)
  have hright := hslots.map (·.2)
  rw [List.map_map] at hleft hright
  exact hleft.trans hright.symm

theorem size (h : Renamed ρ r r') : r'.size = r.size := by
  have hlength := h.perm_slots.length_eq
  rwa [List.length_map, List.length_map] at hlength

/-- The last reference to either reports the same when it goes. -/
theorem dropEffects (h : Renamed ρ r r') : r'.dropEffects = r.dropEffects := by
  rw [Registry.dropEffects, h.size, Registry.dropEffects]

theorem stats (h : Renamed ρ r r') : r'.stats = r.stats := by
  have hcount (p : Option Mediator → Bool) (hp : ∀ m, p (m.map (Mediator.rename ρ)) = p m) :
      ((r'.slots.entries.map fun e => r'.mediator? e.2).filter p).length =
        ((r.slots.entries.map fun e => r.mediator? e.2).filter p).length := by
    have hholds (slot : SlotId) : p (r'.mediator? slot) = p (r.mediator? slot) := by
      rw [h.mediator?, hp]
    have hslots := h.perm_slots.countP_eq fun slot => p (r.mediator? slot)
    rw [List.countP_map, List.countP_map] at hslots
    rw [← List.countP_eq_length_filter, ← List.countP_eq_length_filter, List.countP_map,
      List.countP_map]
    refine Eq.trans (List.countP_congr fun e _ => ?_) hslots
    rw [Function.comp_apply, Function.comp_apply, hholds]
  have hsome := hcount Option.isSome fun m => Option.isSome_map
  have hlive := hcount (fun m => (m.bind Mediator.liveShadow?).isSome) fun m => by
    cases m <;> rfl
  have hnone := hcount Option.isNone fun m => Option.isNone_map
  simp only [Registry.stats, hsome, hlive, hnone]

theorem active (h : Renamed ρ r r') : r'.active = r.active := by
  rw [Registry.active, h.stats, Registry.active]

/-! ### Changing the map -/

/-- Slots are opened for corresponding identities. -/
theorem slotFor (h : Renamed ρ r r') (i : Identity) :
    (r'.slotFor (i.rename ρ)).1 = (r.slotFor i).1 ∧
      Renamed ρ (r.slotFor i).2 (r'.slotFor (i.rename ρ)).2 := by
  have hslot := h.slot? i
  unfold Registry.slotFor
  rw [hslot]
  cases hfound : r.slot? i with
  | some slot => exact ⟨rfl, h⟩
  | none =>
    rw [hfound] at hslot
    refine ⟨h.size_cells, ?_, ?_⟩
    · simp only [h.cells, Array.map_push]
      rfl
    · obtain ⟨owned, hslots, hslots'⟩ := h.slots
      refine ⟨(i, r.cells.size) :: owned, ?_, ?_⟩
      · exact (Dictionary.perm_insert hfound _).trans (hslots.cons _)
      · dsimp only
        rw [h.size_cells]
        exact (Dictionary.perm_insert hslot _).trans (hslots'.cons _)

theorem remove (h : Renamed ρ r r') (i : Identity) :
    Renamed ρ (r.remove i) (r'.remove (i.rename ρ)) where
  cells := h.cells
  slots := by
    obtain ⟨owned, hslots, hslots'⟩ := h.slots
    refine ⟨owned.filter (·.1 != i), ?_, ?_⟩
    · have hkept := hslots.filter (·.1 != i.key)
      rw [List.filter_map] at hkept
      refine hkept.trans (.of_eq ?_)
      congr 1
      refine List.filter_congr fun e _ => ?_
      rw [Function.comp_apply, Bool.eq_iff_iff, bne_iff_ne, bne_iff_ne, ne_eq, ne_eq,
        Identity.key_eq_iff]
    · have hkept := hslots'.filter (·.1 != (i.rename ρ).key)
      rw [List.filter_map] at hkept
      refine hkept.trans (.of_eq ?_)
      congr 1
      refine List.filter_congr fun e _ => ?_
      rw [Function.comp_apply, Bool.eq_iff_iff, bne_iff_ne, bne_iff_ne, ne_eq, ne_eq,
        Identity.key_rename_eq_iff]

theorem markReleased (h : Renamed ρ r r') (slot : SlotId) :
    Renamed ρ (r.markReleased slot) (r'.markReleased slot) := by
  unfold Registry.markReleased
  rw [h.cell]
  cases r.cell slot with
  | vacant => exact h
  | building holder queue => exact h
  | built m => exact h.setCell slot (.built { m with released := true })

theorem beginClose (h : Renamed ρ r r') (slot : SlotId) :
    (r'.beginClose slot).1 = (r.beginClose slot).1.rename ρ ∧
      Renamed ρ (r.beginClose slot).2 (r'.beginClose slot).2 := by
  unfold Registry.beginClose
  rw [h.mediator?]
  cases r.mediator? slot with
  | none => exact ⟨rfl, h⟩
  | some m =>
    dsimp only [Option.map_some]
    rw [Mediator.released_rename, Mediator.shadow_rename]
    split
    · exact ⟨rfl, h⟩
    · refine ⟨?_, h.markReleased slot⟩
      dsimp only
      split <;> rfl

end Registry.Renamed

/-! ## Stretches -/

/-- Stretches that keep registries alike, with corresponding outcomes, and that cannot be told apart
by what they report or by whom they wake. -/
structure Stretch.Renamed (ρ : TokenRenaming) {α : Type} (rename : α → α)
    (s s' : Stretch α) : Prop where
  registry : Registry.Renamed ρ s.registry s'.registry
  outcome : s'.outcome = rename s.outcome
  effects : shown s'.effects = shown s.effects
  woken : s'.woken = s.woken

namespace Stretch.Renamed

variable {α : Type} {rename : α → α} {s s' : Stretch α}

theorem after (h : Renamed ρ rename s s') {effects effects' : List Effect}
    (heffects : shown effects' = shown effects) :
    Renamed ρ rename (s.after effects) (s'.after effects') where
  registry := h.registry
  outcome := h.outcome
  effects := by
    rw [Stretch.after, Stretch.after, shown_append, shown_append, heffects, h.effects]
  woken := h.woken

theorem waking (h : Renamed ρ rename s s') (callers : List CallerId) :
    Renamed ρ rename (s.waking callers) (s'.waking callers) where
  registry := h.registry
  outcome := h.outcome
  effects := h.effects
  woken := by rw [Stretch.waking, Stretch.waking, h.woken]

end Stretch.Renamed

namespace Fetch

variable {r r' : Registry} {caller : CallerId} {q : Request} {fresh : SpanId}

/-- A stretch of asking for a mediator. -/
abbrev Renamed (ρ : TokenRenaming) (s s' : Stretch FetchOutcome) : Prop :=
  Stretch.Renamed ρ (FetchOutcome.rename ρ) s s'

theorem shown_drift (h : Registry.Renamed ρ r r') (slot : SlotId) (config : Descriptor) :
    shown (drift r' slot (config.rename ρ)) = shown (drift r slot config) := by
  unfold drift
  rw [h.mediator?]
  cases r.mediator? slot with
  | none => rfl
  | some m =>
    dsimp only [Option.map_some]
    rw [Mediator.builtFrom_rename]
    split
    · rfl
    · simp [Effect.shown, Notice.level, Notice.target, Notice.message, Notice.fields]

theorem shown_orphanClosed (i : Identity) :
    shown [.noticed (.orphanClosed (i.rename ρ))] = shown [.noticed (.orphanClosed i)] := by
  simp [Effect.shown, Notice.level, Notice.target, Notice.message, Notice.fields]

theorem renamed_startBuild (h : Registry.Renamed ρ r r') (q : Request) (fresh : SpanId)
    (slot : SlotId) :
    Renamed ρ (startBuild r q fresh slot) (startBuild r' (q.rename ρ) fresh slot) where
  registry := h
  outcome := rfl
  effects := by simp [startBuild, Effect.shown, Span.name, Span.fields, Request.rename]
  woken := rfl

theorem renamed_attempt (h : Registry.Renamed ρ r r') (caller : CallerId) (q : Request)
    (fresh : SpanId) :
    Renamed ρ (attempt r caller q fresh) (attempt r' caller (q.rename ρ) fresh) := by
  obtain ⟨hslot, hopened⟩ := h.slotFor q.identity
  unfold attempt
  dsimp only [Request.rename] at hslot hopened ⊢
  generalize r.slotFor q.identity = opened at hslot hopened ⊢
  generalize r'.slotFor (q.identity.rename ρ) = opened' at hslot hopened ⊢
  obtain ⟨slot, r⟩ := opened
  obtain ⟨slot', r'⟩ := opened'
  dsimp only at hslot hopened ⊢
  subst hslot
  rw [hopened.cell]
  cases r.cell slot' with
  | vacant => exact renamed_startBuild (hopened.setCell slot' (.building caller [])) q fresh slot'
  | building holder queue =>
    exact ⟨hopened.setCell slot' (.building holder (queue ++ [caller])), rfl, rfl, rfl⟩
  | built m => exact ⟨hopened, rfl, shown_drift hopened slot' q.config, rfl⟩

theorem renamed_start (h : Registry.Renamed ρ r r') (caller : CallerId) (q : Request)
    (fresh : SpanId) :
    Renamed ρ (start r caller q fresh) (start r' caller (q.rename ρ) fresh) := by
  have hlookup : r'.lookup (q.rename ρ).identity = r.lookup q.identity := h.lookup q.identity
  unfold start
  rw [hlookup]
  cases r.lookup q.identity with
  | none => exact renamed_attempt h caller q fresh
  | some slot =>
    refine ⟨h, rfl, ?_, rfl⟩
    rw [shown_cons, shown_cons]
    refine congrArg₂ List.cons ?_ (shown_drift h slot q.config)
    simp [Effect.shown, Notice.level, Notice.target, Notice.message, Notice.fields, Request.rename]

theorem renamed_settle (h : Registry.Renamed ρ r r') (caller : CallerId) (q : Request)
    (fresh : SpanId) (slot : SlotId) (constructed : Bool) :
    Renamed ρ (settle r caller q fresh slot constructed)
      (settle r' caller (q.rename ρ) fresh slot constructed) := by
  have howns : r'.owns (q.rename ρ).identity slot = r.owns q.identity slot := h.owns q.identity slot
  unfold settle
  rw [howns]
  split
  · refine ⟨h, rfl, ?_, rfl⟩
    dsimp only
    rw [h.active, shown_append, shown_append]
    exact congrArg _ (shown_drift h slot q.config)
  · obtain ⟨hclosing, hbegun⟩ := h.beginClose slot
    generalize r.beginClose slot = begun at hclosing hbegun ⊢
    generalize r'.beginClose slot = begun' at hclosing hbegun ⊢
    obtain ⟨closing, r⟩ := begun
    obtain ⟨closing', r'⟩ := begun'
    dsimp only at hclosing hbegun ⊢
    subst hclosing
    cases closing with
    | nothing => exact renamed_attempt hbegun caller q fresh
    | closed m =>
      refine (renamed_attempt hbegun caller q fresh).after ?_
      rw [shown_append, shown_append, shown_closeEffects]
      exact congrArg _ (shown_orphanClosed q.identity)
    | shadow m => exact ⟨hbegun, rfl, rfl, rfl⟩

theorem renamed_resume (h : Registry.Renamed ρ r r') (caller : CallerId) (q : Request)
    (fresh : SpanId) (slot : SlotId) :
    Renamed ρ (resume r caller q fresh slot) (resume r' caller (q.rename ρ) fresh slot) := by
  unfold resume
  rw [h.cell]
  cases r.cell slot with
  | vacant => exact renamed_startBuild (h.setCell slot (.building caller [])) q fresh slot
  | building holder queue =>
    dsimp only [Cell.rename]
    split
    · exact renamed_startBuild h q fresh slot
    · exact ⟨h, rfl, rfl, rfl⟩
  | built m => exact renamed_settle h caller q fresh slot false

theorem renamed_built (h : Registry.Renamed ρ r r') (caller : CallerId) (q : Request)
    (fresh : SpanId) (slot : SlotId) (span : SpanId) (p : Provision) :
    Renamed ρ (built r caller q fresh slot span p)
      (built r' caller (q.rename ρ) fresh slot span p) := by
  have hfilled := h.setCell slot (.built {
    identity := q.identity, config := q.config, business := q.business, shadow := p.handle? })
  have hsettled := renamed_settle hfilled caller q fresh slot true
  unfold built
  dsimp only
  rw [h.cell]
  cases r.cell slot <;> exact (hsettled.after rfl).waking _

theorem renamed_closed (h : Registry.Renamed ρ r r') (caller : CallerId) (q : Request)
    (fresh : SpanId) (m : Mediator) (failure : Option ProvisionError) :
    Renamed ρ (closed r caller q fresh m failure)
      (closed r' caller (q.rename ρ) fresh (m.rename ρ) failure) := by
  refine (renamed_attempt h caller q fresh).after ?_
  rw [shown_append, shown_append, shown_closeEffects]
  exact congrArg _ (shown_orphanClosed q.identity)

theorem renamed_passOn (h : Registry.Renamed ρ r r') (slot : SlotId) (queue : List CallerId) :
    Stretch.Renamed ρ id (passOn r slot queue) (passOn r' slot queue) := by
  cases queue with
  | nil => exact ⟨h.setCell slot .vacant, rfl, rfl, rfl⟩
  | cons next rest => exact ⟨h.setCell slot (.building next rest), rfl, rfl, rfl⟩

theorem renamed_abandon (h : Registry.Renamed ρ r r') (caller : CallerId) (phase : FetchPhase) :
    Stretch.Renamed ρ id (abandon r caller phase) (abandon r' caller (phase.rename ρ)) := by
  cases phase with
  | waiting slot =>
    unfold abandon
    dsimp only [FetchPhase.rename]
    rw [h.cell]
    cases r.cell slot with
    | vacant => exact ⟨h, rfl, rfl, rfl⟩
    | building holder queue =>
      dsimp only [Cell.rename]
      split
      · exact renamed_passOn h slot queue
      · exact ⟨h.setCell slot (.building holder (queue.erase caller)), rfl, rfl, rfl⟩
    | built m => exact ⟨h, rfl, rfl, rfl⟩
  | building slot span =>
    unfold abandon
    dsimp only [FetchPhase.rename]
    rw [h.cell]
    cases r.cell slot <;> exact (renamed_passOn h slot _).after rfl
  | closing slot m => exact ⟨h, rfl, rfl, rfl⟩

end Fetch

/-! ## Invalidation -/

namespace Invalidate

variable {r r' : Registry}

abbrev Renamed (ρ : TokenRenaming) (s s' : Stretch InvalidateOutcome) : Prop :=
  Stretch.Renamed ρ (InvalidateOutcome.rename ρ) s s'

theorem renamed_finish (h : Registry.Renamed ρ r r') (i : Identity) :
    Renamed ρ (finish r i) (finish r' (i.rename ρ)) where
  registry := h
  outcome := rfl
  effects := by
    simp [finish, Effect.shown, Notice.level, Notice.target, Notice.message, Notice.fields,
      h.active]
  woken := rfl

theorem renamed_start (h : Registry.Renamed ρ r r') (i : Identity) :
    Renamed ρ (start r i) (start r' (i.rename ρ)) := by
  unfold start
  rw [h.slot?]
  cases r.slot? i with
  | none => exact ⟨h, rfl, rfl, rfl⟩
  | some slot =>
    dsimp only
    obtain ⟨hclosing, hbegun⟩ := (h.remove i).beginClose slot
    generalize (r.remove i).beginClose slot = begun at hclosing hbegun ⊢
    generalize (r'.remove (i.rename ρ)).beginClose slot = begun' at hclosing hbegun ⊢
    obtain ⟨closing, r⟩ := begun
    obtain ⟨closing', r'⟩ := begun'
    dsimp only at hclosing hbegun ⊢
    subst hclosing
    cases closing with
    | nothing => exact renamed_finish hbegun i
    | closed m => exact (renamed_finish hbegun i).after (shown_closeEffects m none)
    | shadow m => exact ⟨hbegun, rfl, rfl, rfl⟩

theorem renamed_closed (h : Registry.Renamed ρ r r') (i : Identity) (m : Mediator)
    (failure : Option ProvisionError) :
    Renamed ρ (closed r i m failure) (closed r' (i.rename ρ) (m.rename ρ) failure) :=
  (renamed_finish h i).after (shown_closeEffects m failure)

end Invalidate

end ShadowTraffic
