import ShadowTraffic.Proofs.Registry.Reachability

/-! # Operations that go away

A release takes every slot out of the map before it closes the first shadow. When it goes away
while a shadow closes, the slots still before it are in no map, and only a caller that already
waits or builds there may yet close what they hold: a later release does not find them. The
mediator that was being closed stays released. Nobody else who goes away leaves a slot behind.
-/

namespace ShadowTraffic

/-- The slots that a suspended operation comes back to. -/
def Ongoing.slots : Ongoing → List SlotId
  | .fetch _ phase => phase.slot?.toList
  | .invalidation .. => []
  | .release _ rest _ => rest

/-! ## Slots that a stretch does not touch -/

namespace Registry

variable {r : Registry} {slot other : SlotId}

theorem mediator?_setCell_of_ne (h : slot ≠ other) (cell : Cell) :
    (r.setCell other cell).mediator? slot = r.mediator? slot := by
  rw [mediator?, cell_setCell_of_ne h, ← mediator?]

theorem mediator?_beginClose_of_ne (h : slot ≠ other) :
    (r.beginClose other).2.mediator? slot = r.mediator? slot := by
  rcases r.beginClose_cases other with ⟨hsame, -⟩ | hmark
  · rw [hsame]
  · rw [hmark, mediator?_markReleased]
    simp [h]

theorem mapped_beginClose : (r.beginClose other).2.Mapped slot ↔ r.Mapped slot := by
  rw [Mapped, Mapped, slots_beginClose]

end Registry

/-- What the slot holds stays as it is, and the operation does not come back to it. -/
structure Avoids (slot : SlotId) (r r' : Registry) (o : Outcome) : Prop where
  kept : r'.mediator? slot = r.mediator? slot
  left : ∀ {o'}, o.ongoing? = some o' → slot ∉ o'.slots

namespace Avoids

variable {r : Registry} {slot other : SlotId} {c : CallerId} {q : Request} {fresh : SpanId}

/-- Nothing goes on, and the slot is as it was. -/
theorem ended {r' : Registry} {o : Outcome} (hkept : r'.mediator? slot = r.mediator? slot)
    (ho : o.ongoing? = none) : Avoids slot r r' o where
  kept := hkept
  left hsome := by
    rw [ho] at hsome
    cases hsome

/-- A caller comes to stand at another slot. -/
theorem standing {r' : Registry} {phase : FetchPhase}
    (hkept : r'.mediator? slot = r.mediator? slot) (hphase : phase.slot? = some other)
    (hne : slot ≠ other) : Avoids slot r r' (.suspended (.fetch q phase)) where
  kept := hkept
  left hsome := by
    cases hsome
    simpa [Ongoing.slots, hphase] using hne

theorem congr_left {r₁ r' : Registry} {o : Outcome} (h : Avoids slot r₁ r' o)
    (hkept : r₁.mediator? slot = r.mediator? slot) : Avoids slot r r' o where
  kept := h.kept.trans hkept
  left := h.left

/-- A round goes to a slot that is in the map when it ends. -/
theorem attempt (hlt : slot < r.cells.size) (horphan : ¬ r.Mapped slot) :
    Avoids slot r (Fetch.attempt r c q fresh).registry
      (.ofFetch q (Fetch.attempt r c q fresh).outcome) := by
  have hcases := Fetch.attempt_cases r c q fresh
  have hled := r.slot?_slotFor q.identity
  have hkept := r.mediator?_slotFor q.identity slot
  have horphan' := (Registry.Later.slotFor r q.identity).orphan hlt horphan
  dsimp only at hcases
  generalize (r.slotFor q.identity).1 = other at hcases hled
  generalize (r.slotFor q.identity).2 = r' at hcases hled hkept horphan'
  have hne : slot ≠ other := by
    rintro rfl
    exact horphan' ⟨_, hled⟩
  rcases hcases with ⟨-, hreg, hout⟩ | ⟨-, hreg, hout⟩ | ⟨_, _, -, hreg, hout⟩
  · rw [hreg, hout]
    exact ended hkept rfl
  · rw [hreg, hout]
    exact standing ((Registry.mediator?_setCell_of_ne hne _).trans hkept) rfl hne
  · rw [hreg, hout]
    exact standing ((Registry.mediator?_setCell_of_ne hne _).trans hkept) rfl hne

theorem settle (hlt : slot < r.cells.size) (horphan : ¬ r.Mapped slot) (hne : slot ≠ other)
    (constructed : Bool) :
    Avoids slot r (Fetch.settle r c q fresh other constructed).registry
      (.ofFetch q (Fetch.settle r c q fresh other constructed).outcome) := by
  have hkept := r.mediator?_beginClose_of_ne hne
  rcases Fetch.settle_cases r c q fresh other constructed with
    ⟨-, hreg, hout⟩ | ⟨-, hreg, hout⟩ | ⟨-, hreg, m, hout⟩
  · rw [hreg, hout]
    exact ended rfl rfl
  · rw [hreg, hout]
    refine (attempt ?_ ?_).congr_left hkept
    · exact Nat.lt_of_lt_of_le hlt (Registry.Later.beginClose r other).size_le
    · exact mt Registry.mapped_beginClose.mp horphan
  · rw [hreg, hout]
    refine ⟨hkept, fun hsome => ?_⟩
    cases hsome
    simp [Ongoing.slots, FetchPhase.slot?]

theorem start (hlt : slot < r.cells.size) (horphan : ¬ r.Mapped slot) :
    Avoids slot r (Fetch.start r c q fresh).registry
      (.ofFetch q (Fetch.start r c q fresh).outcome) := by
  rcases Fetch.start_cases r c q fresh with ⟨_, -, hreg, hout⟩ | ⟨-, heq⟩
  · rw [hreg, hout]
    exact ended rfl rfl
  · rw [heq]
    exact attempt hlt horphan

theorem resume (hlt : slot < r.cells.size) (horphan : ¬ r.Mapped slot) (hne : slot ≠ other) :
    Avoids slot r (Fetch.resume r c q fresh other).registry
      (.ofFetch q (Fetch.resume r c q fresh other).outcome) := by
  rcases Fetch.resume_cases r c q fresh other with ⟨-, heq⟩ | ⟨_, -, hreg, hout⟩ |
    ⟨_, _, -, -, hreg, hout⟩ | ⟨-, hreg, hout⟩
  · rw [heq]
    exact settle hlt horphan hne false
  · rw [hreg, hout]
    exact standing rfl rfl hne
  · rw [hreg, hout]
    exact standing rfl rfl hne
  · rw [hreg, hout]
    exact standing (Registry.mediator?_setCell_of_ne hne _) rfl hne

theorem built (hlt : slot < r.cells.size) (horphan : ¬ r.Mapped slot) (hne : slot ≠ other)
    (span : SpanId) (p : Provision) :
    Avoids slot r (Fetch.built r c q fresh other span p).registry
      (.ofFetch q (Fetch.built r c q fresh other span p).outcome) := by
  obtain ⟨hreg, hout⟩ := Fetch.built_eq r c q fresh other span p
  have horphan' : ¬ (r.setCell other (.built (q.filling p))).Mapped slot := horphan
  rw [hreg, hout]
  exact (settle (by simpa using hlt) horphan' hne true).congr_left
    (Registry.mediator?_setCell_of_ne hne _)

theorem abandon {phase : FetchPhase} (hphase : ∀ {k}, phase.slot? = some k → slot ≠ k) :
    Avoids slot r (Fetch.abandon r c phase).registry (.abandoned (.fetch q phase)) := by
  refine ended ?_ rfl
  rcases Fetch.abandon_cases r c phase with hreg | ⟨k, cell, hk, hreg, -⟩
  · rw [hreg]
  · rw [hreg]
    exact Registry.mediator?_setCell_of_ne (hphase hk) cell

theorem invalidate (horphan : ¬ r.Mapped slot) (i : Identity) :
    Avoids slot r (Invalidate.start r i).registry
      (.ofInvalidate i (Invalidate.start r i).outcome) := by
  rcases Invalidate.start_cases r i with ⟨-, hreg, hout⟩ | ⟨k, hk, hreg, hout⟩
  · rw [hreg, hout]
    exact ended rfl rfl
  · have hne : slot ≠ k := by
      rintro rfl
      exact horphan ⟨_, hk⟩
    have hkept : (Invalidate.start r i).registry.mediator? slot = r.mediator? slot := by
      rw [hreg, Registry.mediator?_beginClose_of_ne hne]
      rfl
    rcases hout with hout | ⟨m, hout⟩
    · rw [hout]
      exact ended hkept rfl
    · rw [hout]
      refine ⟨hkept, fun hsome => ?_⟩
      cases hsome
      exact List.not_mem_nil

theorem drain {slots : List SlotId} (hslots : slot ∉ slots) (count : Nat) :
    Avoids slot r (Release.drain r count slots).registry
      (.ofRelease (Release.drain r count slots).outcome) := by
  induction slots generalizing r count with
  | nil =>
    obtain ⟨hreg, hout⟩ := Release.drain_nil r count
    rw [hreg, hout]
    exact ended rfl rfl
  | cons first rest ih =>
    obtain ⟨hne, hrest⟩ := not_or.mp (mt List.mem_cons.mpr hslots)
    have hkept := r.mediator?_beginClose_of_ne hne
    rcases Release.drain_cons r count first rest with ⟨count', hreg, hout⟩ | ⟨hreg, m, hout⟩
    · rw [hreg, hout]
      exact (ih hrest count').congr_left hkept
    · rw [hreg, hout]
      refine ⟨hkept, fun hsome => ?_⟩
      cases hsome
      exact hrest

end Avoids

namespace Shared

variable {s : Shared} {held : List SlotId} {c : CallerId} {a : Action} {t : Transition}
  {slot : SlotId}

/-! ## Slots that nobody comes back to -/

/-- No key leads to the slot, and no operation under way comes back to it. -/
structure Forgotten (s : Shared) (slot : SlotId) : Prop where
  opened : slot < s.registry.cells.size
  orphan : ¬ s.registry.Mapped slot
  left : ∀ {c o}, s.ongoing c = some o → slot ∉ o.slots

theorem Takes.avoids {st : Stretch Outcome} (ht : Takes s c a st) (h : s.Forgotten slot) :
    Avoids slot s.registry st.registry st.outcome := by
  have hstands : ∀ {q phase k}, s.ongoing c = some (.fetch q phase) → phase.slot? = some k →
      slot ≠ k := by
    intro q phase k here hphase
    simpa [Ongoing.slots, hphase] using h.left here
  cases ht with
  | fetch q idle => exact .start h.opened h.orphan
  | lookup i idle => exact .ended rfl rfl
  | invalidate i idle => exact .invalidate h.orphan i
  | release idle =>
    have hnone : slot ∉ s.registry.slots.entries.map (·.2) := by
      simpa [Registry.Mapped, Dictionary.get?_eq_some] using h.orphan
    exact (Avoids.drain hnone 0).congr_left rfl
  | resume here => exact .resume h.opened h.orphan (hstands here rfl)
  | built p here => exact .built h.opened h.orphan (hstands here rfl) _ p
  | closed failure here => exact .attempt h.opened h.orphan
  | abandon here => exact .abandon (hstands here)
  | invalidated failure here => exact .ended rfl rfl
  | abandonInvalidation here => exact .ended rfl rfl
  | @released m rest count failure here => exact .drain (h.left here) count
  | abandonRelease here => exact .ended rfl rfl

theorem Forgotten.step (hs : s.Sound held) (h : s.Forgotten slot) (ht : s.step c a = some t) :
    t.after.Forgotten slot ∧ t.after.registry.mediator? slot = s.registry.mediator? slot := by
  have hlater := hs.later_step ht
  obtain ⟨-, -, -, st, htakes, -, hafter⟩ := step_spec ht
  have havoids := htakes.avoids h
  refine ⟨⟨Nat.lt_of_lt_of_le h.opened hlater.size_le, hlater.orphan h.opened h.orphan, ?_⟩, ?_⟩
  · intro d o hd
    by_cases hdc : d = c
    · subst hdc
      exact havoids.left (by simpa [hafter, afterStretch] using hd)
    · exact h.left (step_ongoing ht hdc ▸ hd)
  · rw [hafter]
    exact havoids.kept

/-- What nobody comes back to stays as it is for good. -/
theorem Forgotten.run (hs : s.Sound held) (h : s.Forgotten slot) (schedule : Schedule) :
    (s.run schedule).final.Forgotten slot ∧
      (s.run schedule).final.registry.mediator? slot = s.registry.mediator? slot := by
  induction schedule generalizing s held with
  | nil => exact ⟨h, rfl⟩
  | cons e schedule ih =>
    cases hstep : s.step e.1 e.2 with
    | none =>
      rw [run_cons_none hstep]
      exact ih hs h
    | some t =>
      obtain ⟨hforgotten, hkept⟩ := h.step hs hstep
      obtain ⟨hfinal, hmediator⟩ := ih (hs.step hstep) hforgotten
      rw [run_cons_some hstep]
      exact ⟨hfinal, hmediator.trans hkept⟩

/-- A release that goes away leaves what is still before it as it is for good, unless another
caller stands there. -/
theorem Sound.lost_for_good (hs : s.Sound held) (ht : s.step c a = some t)
    (hslot : slot ∈ t.outcome.lost)
    (hothers : ∀ {d o}, d ≠ c → s.ongoing d = some o → slot ∉ o.slots) (later : Schedule) :
    (t.after.run later).final.Forgotten slot ∧
      (t.after.run later).final.registry.mediator? slot = t.after.registry.mediator? slot := by
  have hs' := hs.step ht
  obtain ⟨hopened, horphan⟩ := hs'.due (.inl (List.mem_append_left _ hslot))
  have hforgotten : t.after.Forgotten slot := by
    refine ⟨hopened, horphan, fun {d o} hd => ?_⟩
    by_cases hdc : d = c
    · subst hdc
      obtain ⟨-, -, -, st, -, hout, hafter⟩ := step_spec ht
      -- only an abandoned operation loses anything, and nothing goes on then
      rw [hout] at hslot
      cases hst : st.outcome with
      | suspended o => simp [hst, Outcome.lost] at hslot
      | returned answer => simp [hst, Outcome.lost] at hslot
      | abandoned o' => simp [hafter, afterStretch, hst, Outcome.ongoing?] at hd
    · exact hothers hdc (step_ongoing ht hdc ▸ hd)
  exact hforgotten.run hs' later

end Shared

/-! ## Releases that run to their end -/

namespace Release

variable {r : Registry} {m : Mediator} {rest : List SlotId}

/-- A drain that waits has fewer slots before it than it was given. -/
theorem drain_rest {count count' : Nat} {slots : List SlotId}
    (h : (drain r count slots).outcome = .closing m rest count') : rest.length < slots.length := by
  induction slots generalizing r count with
  | nil => cases h
  | cons slot slots ih =>
    rcases drain_cons r count slot slots with ⟨_, -, hout⟩ | ⟨-, _, hout⟩
    · exact Nat.lt_succ_of_lt (ih (hout ▸ h))
    · rw [hout] at h
      cases h
      exact Nat.lt_succ_self _

theorem start_rest {fresh : SpanId} {count : Nat}
    (h : (start r fresh).outcome = .closing m rest count) :
    rest.length < r.slots.entries.length := by
  rw [(start_eq r fresh).2] at h
  simpa using drain_rest h

/-- A release closes what the map led to at once, or it is still before it. -/
theorem start_closes {slot : SlotId} (hmapped : r.Mapped slot) (hm : r.mediator? slot = some m)
    (fresh : SpanId) :
    (start r fresh).registry.Closed slot ∨
      ∃ m' rest count, (start r fresh).outcome = .closing m' rest count ∧ slot ∈ rest := by
  obtain ⟨key, hkey⟩ := hmapped
  obtain ⟨hreg, hout⟩ := start_eq r fresh
  have hslot : slot ∈ r.slots.entries.map (·.2) :=
    List.mem_map.mpr ⟨(key, slot), Dictionary.get?_eq_some.mp hkey, rfl⟩
  rw [hreg, hout]
  exact drain_closes (r := { r with slots := .empty }) hslot hm 0

end Release

namespace Shared

variable {s : Shared} {held : List SlotId} {c : CallerId} {slot : SlotId}

/-- The closes that a caller waits for end, one after the other. -/
def closings (c : CallerId) (failures : List (Option ProvisionError)) : Schedule :=
  failures.map fun failure => (c, .closed failure)

theorem not_draining (idle : s.ongoing c = none) : ¬ s.Draining c slot := by
  rintro ⟨m, rest, count, hc, -⟩
  cases idle.symm.trans hc

/-- An idle caller waits for no close. -/
theorem run_closings_idle (idle : s.ongoing c = none) (failures : List (Option ProvisionError)) :
    s.run (closings c failures) = ⟨s, []⟩ := by
  induction failures with
  | nil => rfl
  | cons failure failures ih =>
    have hstep : s.step c (.closed failure) = none := by simp [step, stretch?, idle]
    rw [closings, List.map_cons, ← closings, run_cons_none hstep, ih]

theorem step_release (idle : s.ongoing c = none) :
    ∃ t, s.step c .release = some t ∧
      t.after.registry = (Release.start s.registry s.spans).registry ∧
      t.after.ongoing c = (Outcome.ofRelease (Release.start s.registry s.spans).outcome).ongoing? := by
  have hstretch : s.stretch? c .release =
      some ((Release.start s.registry s.spans).map .ofRelease) := by
    simp only [stretch?, idle]
  exact ⟨_, by rw [Shared.step, hstretch]; rfl, rfl, Function.update_self ..⟩

/-- A close ends that a release waits for. -/
theorem step_released {m : Mediator} {rest : List SlotId} {count : Nat}
    (here : s.ongoing c = some (.release m rest count)) (failure : Option ProvisionError) :
    ∃ t, s.step c (.closed failure) = some t ∧
      t.outcome = .ofRelease (Release.drain s.registry count rest).outcome ∧
      t.after.ongoing c = t.outcome.ongoing? := by
  have hstretch : s.stretch? c (.closed failure) =
      some ((Release.closed s.registry m rest count failure).map .ofRelease) := by
    simp only [stretch?, here]
  exact ⟨_, by rw [Shared.step, hstretch]; rfl, rfl, Function.update_self ..⟩

/-- A release whose closes end comes to its own end, and does not go away. -/
theorem run_closings {failures : List (Option ProvisionError)} {m : Mediator}
    {rest : List SlotId} {count : Nat} (here : s.ongoing c = some (.release m rest count))
    (hlength : rest.length < failures.length) :
    (s.run (closings c failures)).final.ongoing c = none ∧
      ∀ t ∈ (s.run (closings c failures)).transitions, t.outcome.cutsRelease = false := by
  induction failures generalizing s m rest count with
  | nil => cases hlength
  | cons failure failures ih =>
    obtain ⟨t, hstep, hout, hongoing⟩ := step_released here failure
    rw [closings, List.map_cons, ← closings, run_cons_some hstep, List.forall_mem_cons]
    cases hdrain : (Release.drain s.registry count rest).outcome with
    | done total =>
      rw [hdrain] at hout
      rw [hout] at hongoing ⊢
      rw [run_closings_idle hongoing]
      exact ⟨hongoing, rfl, by simp⟩
    | closing m' rest' count' =>
      have hfewer := Release.drain_rest hdrain
      rw [hdrain] at hout
      rw [hout] at hongoing ⊢
      obtain ⟨hidle, hends⟩ := ih hongoing (by rw [List.length_cons] at hlength; omega)
      exact ⟨hidle, rfl, hends⟩

/-- A release that runs to its end closes everything that it found in the map. -/
theorem Sound.release_closes (hs : s.Sound held) (idle : s.ongoing c = none)
    {failures : List (Option ProvisionError)}
    (hlength : s.registry.slots.entries.length ≤ failures.length) :
    (s.run ((c, .release) :: closings c failures)).final.ongoing c = none ∧
      ∀ {slot m}, s.registry.Mapped slot → s.registry.mediator? slot = some m →
        (s.run ((c, .release) :: closings c failures)).final.registry.Closed slot := by
  obtain ⟨t, hstep, hreg, hongoing⟩ := step_release idle
  have hs' := hs.step hstep
  have hcloses : ∀ {slot m}, s.registry.Mapped slot → s.registry.mediator? slot = some m →
      t.after.registry.Closed slot ∨ t.after.Draining c slot := by
    intro slot m hmapped hm
    rw [hreg]
    refine (Release.start_closes hmapped hm s.spans).imp id ?_
    rintro ⟨m', rest, count, hout, hrest⟩
    exact ⟨m', rest, count, by rw [hongoing, hout]; rfl, hrest⟩
  rw [run_cons_some hstep]
  cases hout : (Release.start s.registry s.spans).outcome with
  | done total =>
    rw [hout] at hongoing
    rw [run_closings_idle hongoing]
    exact ⟨hongoing, fun hmapped hm => (hcloses hmapped hm).resolve_right (not_draining hongoing)⟩
  | closing m' rest count =>
    have hfewer := Release.start_rest hout
    rw [hout] at hongoing
    obtain ⟨hidle, hends⟩ := run_closings hongoing (Nat.lt_of_lt_of_le hfewer hlength)
    refine ⟨hidle, fun {slot m} hmapped hm => ?_⟩
    rcases hcloses hmapped hm with ⟨m'', hm'', hreleased⟩ | hdraining
    · exact (hs'.later_run _).released hm'' hreleased
    · obtain ⟨m'', hm''⟩ : ∃ m'', t.after.registry.mediator? slot = some m'' :=
        ((hs.later_step hstep).kept hm).elim (⟨_, ·⟩) (⟨_, ·⟩)
      exact (hdraining.run hs' hm'' _ hends).resolve_left (not_draining hidle)

/-! ## What is left behind -/

/-- Where a run has come to when nobody is in the middle of an operation: what has been built is
closed, or a release away from it, or it is lost. -/
structure LeftBehind (r : Run Shared Transition) : Prop where
  built : ∀ {slot m}, r.final.registry.mediator? slot = some m →
    m.released = true ∨ r.final.registry.Mapped slot ∨ slot ∈ lost r.transitions
  /-- A release that runs to its end closes what the map leads to. -/
  closed : ∀ c failures, r.final.registry.slots.entries.length ≤ failures.length →
    let later := r.final.run ((c, .release) :: closings c failures)
    later.final.ongoing c = none ∧
      ∀ {slot m}, r.final.registry.Mapped slot → r.final.registry.mediator? slot = some m →
        later.final.registry.Closed slot
  /-- What a release had before it as it went away stays out of the map and as it is. -/
  forgotten : ∀ {slot}, slot ∈ lost r.transitions → ∀ later : Schedule,
    ¬ (r.final.run later).final.registry.Mapped slot ∧
      (r.final.run later).final.registry.mediator? slot = r.final.registry.mediator? slot

theorem left_behind (schedule : Schedule)
    (hidle : ∀ c, (({} : Shared).run schedule).final.ongoing c = none) :
    LeftBehind (({} : Shared).run schedule) := by
  obtain ⟨held, hs, hheld⟩ := Sound.initial.run schedule
  have hlost : ∀ slot, slot ∈ held ↔ slot ∈ lost (({} : Shared).run schedule).transitions :=
    fun slot => by simpa using hheld slot
  refine ⟨fun {slot m} hm => ?_, fun c failures => hs.release_closes (hidle c), ?_⟩
  · cases hreleased : m.released with
    | true => exact .inl rfl
    | false =>
      rcases hs.reachable hm hreleased with hmapped | hslot | ⟨c, _, _, _, hc, -⟩
      · exact .inr (.inl hmapped)
      · exact .inr (.inr ((hlost slot).mp hslot))
      · cases (hidle c).symm.trans hc
  · intro slot hslot later
    obtain ⟨hopened, horphan⟩ := hs.due (.inl ((hlost slot).mpr hslot))
    have hforgotten : (({} : Shared).run schedule).final.Forgotten slot :=
      ⟨hopened, horphan, fun {c o} hc => by cases (hidle c).symm.trans hc⟩
    obtain ⟨hfinal, hkept⟩ := hforgotten.run hs later
    exact ⟨hfinal.orphan, hkept⟩

/-- Two shadows, and a release that goes away while the first of them closes. -/
def cutShort : Schedule :=
  let ask (name : String) (business : Handle) : Action :=
    .fetch ⟨⟨name, "", "", "", ""⟩, {}, business⟩
  [(0, ask "a" "x"), (0, .built (.ok (some "s"))), (0, ask "b" "y"),
    (0, .built (.ok (some "t"))), (1, .release), (1, .abandon)]

theorem cutShort_idle (c : CallerId) : (({} : Shared).run cutShort).final.ongoing c = none := by
  by_cases h : c = 0 ∨ c = 1
  · rcases h with rfl | rfl
    · decide
    · decide
  · obtain ⟨hzero, hone⟩ := not_or.mp h
    refine run_ongoing ?_
    simp [cutShort, Ne.symm hzero, Ne.symm hone]

/-- Nothing ever closes the second shadow. -/
theorem left_behind_cutShort (later : Schedule) :
    let r := (({} : Shared).run cutShort).final.run later
    ¬ r.final.registry.Mapped 1 ∧
      (r.final.registry.mediator? 1).map (·.shadow) = some (some "t") ∧
      (r.final.registry.mediator? 1).map (·.released) = some false := by
  have hleft := left_behind cutShort cutShort_idle
  obtain ⟨horphan, hkept⟩ := hleft.forgotten (show 1 ∈ lost _ by decide) later
  exact ⟨horphan, by rw [hkept]; decide, by rw [hkept]; decide⟩

end Shared

end ShadowTraffic
