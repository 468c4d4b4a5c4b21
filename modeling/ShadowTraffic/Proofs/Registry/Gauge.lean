import ShadowTraffic.Proofs.Registry.Preservation
import ShadowTraffic.Proofs.Writes

/-! # The gauge of active mediators

The gauge is written when a caller has built a mediator, when an invalidation ends and when a
release ends. The first two write how many mediators the map leads to right then. A release writes
zero; that is what there is unless others have built while it closed a shadow, and then the gauge
says nothing of what they built until it is written again.
-/

namespace ShadowTraffic

/-! ## What is written -/

/-- The gauge as it reads; it is zero before it is written. -/
def Metrics.gauge (m : Metrics) : Nat :=
  m.active.getD 0

/-- The gauge after some effects. -/
def gaugeAfter (g : Nat) : List Effect → Nat
  | [] => g
  | .activeSet n :: rest => gaugeAfter n rest
  | _ :: rest => gaugeAfter g rest

theorem gaugeAfter_append (g : Nat) (effects more : List Effect) :
    gaugeAfter g (effects ++ more) = gaugeAfter (gaugeAfter g effects) more := by
  induction effects generalizing g with
  | nil => rfl
  | cons e effects ih => cases e <;> exact ih _

/-- Metrics that record effects keep the gauge. -/
theorem Metrics.gauge_foldl (effects : List Effect) (m : Metrics) :
    (effects.foldl Metrics.record m).gauge = gaugeAfter m.gauge effects := by
  induction effects generalizing m with
  | nil => rfl
  | cons e effects ih =>
    rw [List.foldl_cons, ih]
    cases e <;> rfl

@[simp] theorem gaugeAfter_closeEffects (g : Nat) (m : Mediator)
    (failure : Option ProvisionError) : gaugeAfter g (closeEffects m failure) = g := by
  cases failure <;> rfl

@[simp] theorem gaugeAfter_drift (g : Nat) (r : Registry) (slot : SlotId) (config : Descriptor) :
    gaugeAfter g (Fetch.drift r slot config) = g := by
  unfold Fetch.drift
  split
  · split <;> rfl
  · rfl

/-! ## What is counted -/

namespace Registry

variable {r r' : Registry}

theorem active_eq_countP (r : Registry) :
    r.active = r.slots.entries.countP fun e => (r.filling? e.2).isSome := by
  rw [active, stats, ← List.countP_eq_length_filter, List.countP_map]
  refine List.countP_congr fun e _ => ?_
  rw [Function.comp_apply, filling?, Option.isSome_map]

/-- The count depends on what the slots in the map are filled with. -/
theorem active_congr (hslots : r'.slots = r.slots)
    (hfilled : ∀ slot, r.Mapped slot → r'.filling? slot = r.filling? slot) :
    r'.active = r.active := by
  rw [active_eq_countP, active_eq_countP, hslots]
  refine List.countP_congr fun e he => ?_
  rw [hfilled e.2 ⟨e.1, Dictionary.get?_eq_some.mpr he⟩]

/-- A cell without a mediator may change into another without one. -/
theorem active_setCell {slot : SlotId} {c : Cell} (h : r.mediator? slot = none)
    (hc : ∀ m, c ≠ .built m) : (r.setCell slot c).active = r.active :=
  active_congr rfl fun other _ => filling?_setCell (filling?_eq_none.mpr h) hc other

/-- A slot that the map does not lead to may be filled. -/
theorem active_fill {slot : SlotId} (h : ¬ r.Mapped slot) (m : Mediator) :
    (r.setCell slot (.built m)).active = r.active := by
  refine active_congr rfl fun other hother => ?_
  have hne : other ≠ slot := fun heq => h (heq ▸ hother)
  simp only [filling?, mediator?, cell_setCell_of_ne hne]

theorem active_beginClose (r : Registry) (slot : SlotId) :
    (r.beginClose slot).2.active = r.active :=
  active_congr (slots_beginClose r slot) fun other _ => filling?_beginClose r slot other

/-- A slot that is opened is not filled. -/
theorem active_slotFor (r : Registry) (i : Identity) : (r.slotFor i).2.active = r.active := by
  cases h : r.slot? i with
  | some slot => rw [slotFor_of_some h]
  | none =>
    have hfilled := r.filling?_slotFor i
    have hnew : r.filling? r.cells.size = none := by
      rw [filling?_eq_none, mediator?, cell, Array.getElem?_eq_none (Nat.le_refl _)]
      rfl
    rw [slotFor_of_none h] at hfilled ⊢
    have hinserted := (Dictionary.perm_insert h r.cells.size).countP_eq
      fun e => (r.filling? e.2).isSome
    rw [List.countP_cons, hnew] at hinserted
    rw [active_eq_countP, active_eq_countP, ← Nat.add_zero (List.countP _ r.slots.entries)]
    refine Eq.trans (List.countP_congr fun e _ => ?_) hinserted
    rw [hfilled]

end Registry

/-! ## Stretches -/

/-- A stretch that leaves the gauge and what it counts. -/
structure Stretch.KeepsCount {α : Type} (r : Registry) (st : Stretch α) : Prop where
  gauge : ∀ g, gaugeAfter g st.effects = g
  active : st.registry.active = r.active

/-- A stretch that writes what it counts. -/
def Stretch.Counts {α : Type} (st : Stretch α) : Prop :=
  ∀ g, gaugeAfter g st.effects = st.registry.active

namespace Stretch

variable {α : Type} {r : Registry} {st : Stretch α} {effects : List Effect}

theorem KeepsCount.after (h : st.KeepsCount r) (heffects : ∀ g, gaugeAfter g effects = g) :
    (st.after effects).KeepsCount r where
  gauge g := by rw [Stretch.after, gaugeAfter_append, heffects, h.gauge]
  active := h.active

theorem KeepsCount.map {β : Type} (h : st.KeepsCount r) (f : α → β) : (st.map f).KeepsCount r :=
  ⟨h.gauge, h.active⟩

theorem Counts.after (h : st.Counts) (effects : List Effect) : (st.after effects).Counts := by
  intro g
  rw [Stretch.after, gaugeAfter_append]
  exact h _

end Stretch

namespace Fetch

theorem keepsCount_attempt (r : Registry) (c : CallerId) (q : Request) (fresh : SpanId) :
    (attempt r c q fresh).KeepsCount r := by
  have hactive := r.active_slotFor q.identity
  unfold attempt
  generalize r.slotFor q.identity = opened at hactive ⊢
  obtain ⟨slot, r'⟩ := opened
  dsimp only at hactive ⊢
  cases hcell : r'.cell slot with
  | built m => exact ⟨fun g => gaugeAfter_drift g r' slot q.config, hactive⟩
  | vacant =>
    refine ⟨fun g => rfl, ?_⟩
    exact (Registry.active_setCell (Registry.mediator?_of_vacant hcell) (by simp)).trans hactive
  | building holder queue =>
    refine ⟨fun g => rfl, ?_⟩
    exact (Registry.active_setCell (Registry.mediator?_of_building hcell) (by simp)).trans hactive

theorem keepsCount_start (r : Registry) (c : CallerId) (q : Request) (fresh : SpanId) :
    (start r c q fresh).KeepsCount r := by
  unfold start
  split
  · exact ⟨fun g => gaugeAfter_drift g r _ q.config, rfl⟩
  · exact keepsCount_attempt r c q fresh

/-- Only a caller that built a mediator of the map writes the gauge. -/
theorem keepsCount_settle {r : Registry} {q : Request} {slot : SlotId} {constructed : Bool}
    (h : constructed = true → r.slot? q.identity ≠ some slot) (c : CallerId) (fresh : SpanId) :
    (settle r c q fresh slot constructed).KeepsCount r := by
  unfold settle
  split
  next howns =>
    cases constructed with
    | true => exact absurd (Registry.owns_iff.mp howns) (h rfl)
    | false => exact ⟨fun g => gaugeAfter_drift g r slot q.config, rfl⟩
  · have hactive := r.active_beginClose slot
    generalize r.beginClose slot = begun at hactive ⊢
    obtain ⟨closing, r'⟩ := begun
    dsimp only at hactive
    have hround := keepsCount_attempt r' c q fresh
    have hattempt : (attempt r' c q fresh).KeepsCount r :=
      ⟨hround.gauge, hround.active.trans hactive⟩
    cases closing with
    | nothing => exact hattempt
    | closed m => exact hattempt.after fun g => rfl
    | shadow m => exact ⟨fun g => rfl, hactive⟩

theorem counts_settle {r : Registry} {q : Request} {slot : SlotId}
    (h : r.slot? q.identity = some slot) (c : CallerId) (fresh : SpanId) :
    (settle r c q fresh slot true).Counts := by
  intro g
  rw [settle, if_pos (Registry.owns_iff.mpr h)]
  exact gaugeAfter_drift r.active r slot q.config

theorem keepsCount_resume (r : Registry) (c : CallerId) (q : Request) (fresh : SpanId)
    (slot : SlotId) : (resume r c q fresh slot).KeepsCount r := by
  unfold resume
  cases hcell : r.cell slot with
  | built m => exact keepsCount_settle (by simp) c fresh
  | vacant =>
    exact ⟨fun g => rfl, Registry.active_setCell (Registry.mediator?_of_vacant hcell) (by simp)⟩
  | building holder queue =>
    dsimp only
    split
    · exact ⟨fun g => rfl, rfl⟩
    · exact ⟨fun g => rfl, rfl⟩

/-- A build that ends writes the gauge, unless its slot has left the map. -/
theorem built_tells {r : Registry} {q : Request} {slot : SlotId}
    (hkeys : ∀ key, r.slots.get? key = some slot → key = q.identity.key) (c : CallerId)
    (fresh : SpanId) (span : SpanId) (p : Provision) :
    (built r c q fresh slot span p).Counts ∨ (built r c q fresh slot span p).KeepsCount r := by
  have hnotice (g : Nat) : gaugeAfter g
      ([.noticed (provisionNotice p), .counted (.provisioned p.outcome)] ++ timed span) = g := rfl
  by_cases howns : r.slot? q.identity = some slot
  · refine .inl fun g => ?_
    have hsettled := counts_settle (r := r.setCell slot (.built (q.filling p))) howns c fresh
    exact hsettled.after _ g
  · have hmapped : ¬ r.Mapped slot := fun ⟨key, hkey⟩ =>
      howns (by rw [Registry.slot?, ← hkeys key hkey]; exact hkey)
    have hsettled : (settle (r.setCell slot (.built (q.filling p))) c q fresh slot true).KeepsCount
        (r.setCell slot (.built (q.filling p))) :=
      keepsCount_settle (r := r.setCell slot (.built (q.filling p))) (fun _ => howns) c fresh
    have hafter := hsettled.after hnotice
    exact .inr ⟨hafter.gauge, hafter.active.trans (Registry.active_fill hmapped _)⟩

theorem keepsCount_closed (r : Registry) (c : CallerId) (q : Request) (fresh : SpanId)
    (m : Mediator) (failure : Option ProvisionError) :
    (closed r c q fresh m failure).KeepsCount r := by
  refine (keepsCount_attempt r c q fresh).after fun g => ?_
  rw [gaugeAfter_append, gaugeAfter_closeEffects]
  rfl

/-- A caller that goes away leaves no gauge, as it touches no filled slot. -/
theorem keepsCount_abandon {r : Registry} {c : CallerId} {phase : FetchPhase}
    (h : ∀ {slot span}, phase = .building slot span → ∃ queue, r.cell slot = .building c queue) :
    (abandon r c phase).KeepsCount r where
  gauge g := by
    have hpass (slot : SlotId) (queue : List CallerId) :
        gaugeAfter g (passOn r slot queue).effects = g := by
      cases queue <;> rfl
    cases phase with
    | closing slot m => rfl
    | building slot span =>
      refine (gaugeAfter_append g (timed span) _).trans ?_
      exact hpass slot _
    | waiting slot =>
      unfold abandon
      dsimp only
      cases r.cell slot with
      | building holder queue =>
        dsimp only
        split
        · exact hpass slot queue
        · rfl
      | _ => rfl
  active := by
    rcases abandon_empty h with hreg | ⟨slot, cell, hreg, hempty, hbuilt⟩
    · rw [hreg]
    · rw [hreg]
      exact Registry.active_setCell hempty hbuilt

end Fetch

/-- An invalidation writes the gauge at its end; until then it waits for a shadow to close. -/
theorem Invalidate.start_tells (r : Registry) (i : Identity) :
    (Invalidate.start r i).KeepsCount r ∨ (Invalidate.start r i).Counts ∨
      ∃ m, (Invalidate.start r i).outcome = .closing m := by
  unfold Invalidate.start
  cases r.slot? i with
  | none => exact .inl ⟨fun g => rfl, rfl⟩
  | some slot =>
    refine .inr ?_
    dsimp only
    generalize (r.remove i).beginClose slot = begun
    obtain ⟨closing, r'⟩ := begun
    have hfinish : (Invalidate.finish r' i).Counts := fun g => rfl
    cases closing with
    | nothing => exact .inl hfinish
    | closed m => exact .inl (hfinish.after _)
    | shadow m => exact .inr ⟨m, rfl⟩

theorem Invalidate.counts_closed (r : Registry) (i : Identity) (m : Mediator)
    (failure : Option ProvisionError) : (Invalidate.closed r i m failure).Counts := by
  have hfinish : (Invalidate.finish r i).Counts := fun g => rfl
  exact hfinish.after _

namespace Release

/-- A release writes zero at its end; until then it waits for a shadow to close. -/
theorem drain_tells (r : Registry) (count : Nat) (slots : List SlotId) :
    (drain r count slots).registry.slots = r.slots ∧
      ((∃ total, (drain r count slots).outcome = .done total ∧
          ∀ g, gaugeAfter g (drain r count slots).effects = 0) ∨
        ∃ m rest total, (drain r count slots).outcome = .closing m rest total) := by
  induction slots generalizing r count with
  | nil =>
    refine ⟨rfl, .inl ⟨count, rfl, fun g => ?_⟩⟩
    unfold drain
    dsimp only
    split <;> rfl
  | cons slot rest ih =>
    have hslots := r.slots_beginClose slot
    unfold drain
    generalize r.beginClose slot = begun at hslots ⊢
    obtain ⟨closing, r'⟩ := begun
    dsimp only at hslots ⊢
    rw [← hslots]
    cases closing with
    | nothing => exact ih r' count
    | shadow m => exact ⟨rfl, .inr ⟨m, rest, count + 1, rfl⟩⟩
    | closed m =>
      obtain ⟨hrest, hends⟩ := ih r' (count + 1)
      refine ⟨hrest, hends.imp ?_ id⟩
      rintro ⟨total, hdone, hzero⟩
      refine ⟨total, hdone, fun g => ?_⟩
      exact (gaugeAfter_append g _ _).trans (hzero _)

/-- A release that is not suspended counts what is left, which is nothing. -/
theorem start_tells (r : Registry) (fresh : SpanId) :
    (start r fresh).Counts ∨ ∃ m rest count, (start r fresh).outcome = .closing m rest count := by
  obtain ⟨hslots, hends⟩ := drain_tells { r with slots := .empty } 0 (r.slots.entries.map (·.2))
  refine hends.imp ?_ id
  rintro ⟨total, -, hzero⟩ g
  have hempty : (start r fresh).registry.active = 0 := by
    have hdrained : (start r fresh).registry.slots = .empty := hslots
    rw [Registry.active_eq_countP, hdrained]
    rfl
  rw [hempty]
  exact (gaugeAfter_append g _ _).trans (hzero _)

/-- A release that was suspended writes zero whatever there is. -/
theorem closed_tells (r : Registry) (m : Mediator) (rest : List SlotId) (count : Nat)
    (failure : Option ProvisionError) :
    (∃ total, (closed r m rest count failure).outcome = .done total ∧
        ∀ g, gaugeAfter g (closed r m rest count failure).effects = 0) ∨
      ∃ m' rest' total, (closed r m rest count failure).outcome = .closing m' rest' total := by
  refine (drain_tells r count rest).2.imp ?_ id
  rintro ⟨total, hdone, hzero⟩
  exact ⟨total, hdone, fun g => (gaugeAfter_append g _ _).trans (hzero _)⟩

end Release

/-! ## The gauge of a registry in use -/

/-- Whether an operation is going to write the gauge when a shadow has closed. -/
def Ongoing.writes : Ongoing → Bool
  | fetch .. => false
  | invalidation .. => true
  | release .. => true

/-- No invalidation and no release is given up, and a release ends with nothing in the map that was
built meanwhile. -/
def Transition.Orderly (t : Transition) : Prop :=
  (∀ o, t.outcome = .abandoned o → o.writes = false) ∧
    ∀ count, t.outcome = .returned (.released count) → t.after.registry.active = 0

namespace Shared

/-- The gauge reads as many mediators as there are, or is going to be written. -/
def Told (s : Shared) (g : Nat) : Prop :=
  g = s.registry.active ∨ ∃ c o, s.ongoing c = some o ∧ o.writes = true

variable {s : Shared} {c : CallerId} {st : Stretch Outcome} {g : Nat}

/-- A stretch of a caller that is not going to write the gauge. -/
theorem Told.keep (h : s.Told g) (hst : st.KeepsCount s.registry)
    (hc : ∀ o, s.ongoing c = some o → o.writes = false) :
    (s.afterStretch c st).Told (gaugeAfter g st.effects) := by
  rcases h with hcount | ⟨d, o, hd, ho⟩
  · refine .inl ?_
    rw [hst.gauge]
    exact hcount.trans hst.active.symm
  · have hne : d ≠ c := by
      intro hdc
      subst hdc
      have hwrites := hc o hd
      rw [ho] at hwrites
      cases hwrites
    exact .inr ⟨d, o, (Function.update_of_ne hne _ s.ongoing).trans hd, ho⟩

theorem Told.counts (hst : st.Counts) (s : Shared) (c : CallerId) (g : Nat) :
    (s.afterStretch c st).Told (gaugeAfter g st.effects) :=
  .inl (hst g)

/-- A caller that waits for a shadow to close is going to write the gauge. -/
theorem Told.suspended {o : Ongoing} (hout : st.outcome = .suspended o) (ho : o.writes = true)
    (s : Shared) (c : CallerId) (g : Nat) : (s.afterStretch c st).Told g :=
  .inr ⟨c, o, (Function.update_self c _ s.ongoing).trans (by rw [hout]; rfl), ho⟩

theorem Told.step {held : List SlotId} {a : Action} {t : Transition} (h : s.Told g)
    (hs : s.Sound held) (ht : s.step c a = some t) (horderly : t.Orderly) :
    t.after.Told (gaugeAfter g t.effects) := by
  unfold Shared.step at ht
  cases hst : s.stretch? c a with
  | none => simp [hst] at ht
  | some st =>
    rw [hst, Option.map_some, Option.some.injEq] at ht
    subst ht
    obtain ⟨hgiven, hreleased⟩ := horderly
    dsimp only at hgiven hreleased ⊢
    have hidle (hnone : s.ongoing c = none) : ∀ o, s.ongoing c = some o → o.writes = false := by
      simp [hnone]
    have hfetch {q phase} (hhere : s.ongoing c = some (.fetch q phase)) :
        ∀ o, s.ongoing c = some o → o.writes = false := by
      intro o ho
      rw [hhere] at ho
      cases ho
      rfl
    cases takes_of_stretch? hst with
    | fetch q idle => exact h.keep ((Fetch.keepsCount_start ..).map _) (hidle idle)
    | lookup i idle => exact h.keep ⟨fun g => rfl, rfl⟩ (hidle idle)
    | invalidate i idle =>
      rcases Invalidate.start_tells s.registry i with hkeeps | hcounts | ⟨m, hclosing⟩
      · exact h.keep (hkeeps.map _) (hidle idle)
      · exact .counts hcounts s c g
      · have hout : ((Invalidate.start s.registry i).map (Outcome.ofInvalidate i)).outcome =
            .suspended (.invalidation i m) := congrArg (Outcome.ofInvalidate i) hclosing
        exact .suspended hout rfl s c _
    | release idle =>
      rcases Release.start_tells s.registry s.spans with hcounts | ⟨m, rest, count, hclosing⟩
      · exact .counts hcounts s c g
      · have hout : ((Release.start s.registry s.spans).map Outcome.ofRelease).outcome =
            .suspended (.release m rest count) := congrArg Outcome.ofRelease hclosing
        exact .suspended hout rfl s c _
    | resume here => exact h.keep ((Fetch.keepsCount_resume ..).map _) (hfetch here)
    | built p here =>
      rcases Fetch.built_tells (hs.working here rfl).2 c s.spans _ p with hcounts | hkeeps
      · exact .counts hcounts s c g
      · exact h.keep (hkeeps.map _) (hfetch here)
    | closed failure here => exact h.keep ((Fetch.keepsCount_closed ..).map _) (hfetch here)
    | abandon here =>
      refine h.keep ((Fetch.keepsCount_abandon ?_).map _) (hfetch here)
      rintro slot span rfl
      exact hs.building here
    | invalidated failure here =>
      exact .counts (Invalidate.counts_closed s.registry _ _ failure) s c g
    | abandonInvalidation here => cases hgiven _ rfl
    | released failure here =>
      rename_i m rest count
      rcases Release.closed_tells s.registry m rest count failure with
        ⟨total, hdone, hzero⟩ | ⟨m', rest', total, hclosing⟩
      · have hnothing := hreleased total (congrArg Outcome.ofRelease hdone)
        exact .inl ((hzero g).trans hnothing.symm)
      · have hout : ((Release.closed s.registry m rest count failure).map
            Outcome.ofRelease).outcome = .suspended (.release m' rest' total) :=
          congrArg Outcome.ofRelease hclosing
        exact .suspended hout rfl s c _
    | abandonRelease here => cases hgiven _ rfl

/-- What the metrics record over some transitions. -/
def recorded (ts : List Transition) : Metrics :=
  (ts.flatMap (·.effects)).foldl Metrics.record {}

theorem Told.run {held : List SlotId} (h : s.Told g) (hs : s.Sound held) (schedule : Schedule)
    (horderly : ∀ t ∈ (s.run schedule).transitions, t.Orderly) :
    (s.run schedule).final.Told
      (gaugeAfter g ((s.run schedule).transitions.flatMap (·.effects))) := by
  induction schedule generalizing s held g with
  | nil => exact h
  | cons e schedule ih =>
    cases hstep : s.step e.1 e.2 with
    | none =>
      rw [run_cons_none hstep] at horderly ⊢
      exact ih h hs horderly
    | some t =>
      rw [run_cons_some hstep] at horderly ⊢
      have htold := h.step hs hstep (horderly t List.mem_cons_self)
      dsimp only
      rw [List.flatMap_cons, gaugeAfter_append]
      exact ih htold (hs.step hstep) fun u hu => horderly u (List.mem_cons_of_mem _ hu)

/-- With nobody in the middle of an operation the gauge reads as many mediators as the map leads
to, if no invalidation and no release was given up and none ended with something in the map that was
built meanwhile. -/
theorem gauge_told (schedule : Schedule)
    (horderly : ∀ t ∈ (({} : Shared).run schedule).transitions, t.Orderly)
    (hidle : ∀ c, (({} : Shared).run schedule).final.ongoing c = none) :
    (recorded (({} : Shared).run schedule).transitions).gauge =
      (({} : Shared).run schedule).final.registry.active := by
  have htold : ({} : Shared).Told 0 := .inl rfl
  have hrun := htold.run Sound.initial schedule horderly
  rw [recorded, Metrics.gauge_foldl]
  rcases hrun with hcount | ⟨c, o, hc, -⟩
  · exact hcount
  · rw [hidle c] at hc
    cases hc

/-- A mediator is built while a release closes the shadow of another. -/
def uncounted : Schedule :=
  let ask (name : String) (business : Handle) : Action :=
    .fetch ⟨⟨name, "", "", "", ""⟩, {}, business⟩
  [(0, ask "a" "x"), (0, .built (.ok (some "s"))), (1, .release), (0, ask "b" "y"),
    (0, .built (.ok (some "t"))), (1, .closed none)]

theorem uncounted_idle (c : CallerId) : (({} : Shared).run uncounted).final.ongoing c = none := by
  by_cases h : c = 0 ∨ c = 1
  · rcases h with rfl | rfl
    · decide
    · decide
  · obtain ⟨hzero, hone⟩ := not_or.mp h
    refine run_ongoing ?_
    simp [uncounted, Ne.symm hzero, Ne.symm hone]

/-- The release then writes zero, with one mediator in the map and nobody in an operation. -/
theorem gauge_uncounted :
    (∀ c, (({} : Shared).run uncounted).final.ongoing c = none) ∧
      (recorded (({} : Shared).run uncounted).transitions).gauge = 0 ∧
      (({} : Shared).run uncounted).final.registry.active = 1 :=
  ⟨uncounted_idle, by decide, by decide⟩

end Shared

end ShadowTraffic
