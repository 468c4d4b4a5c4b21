import Mathlib.Tactic.Tauto
import ShadowTraffic.Proofs.Registry.Soundness

/-! # Stretches keep the invariant

A stretch begins when its caller leaves the suspended ones and ends when it is suspended again or
returns. What an abandoned release had before it stays in hand for good; apart from that a run
ends with empty hands.
-/

namespace ShadowTraffic

/-- The slots that a suspended release has before it. -/
def Ongoing.rest : Ongoing → List SlotId
  | .release _ rest _ => rest
  | _ => []

/-- The slots that nobody is going to close once the stretch has ended. -/
def Outcome.lost : Outcome → List SlotId
  | .abandoned o => o.rest
  | _ => []

namespace Outcome

@[simp] theorem lost_ofFetch (q : Request) (o : FetchOutcome) : (ofFetch q o).lost = [] := by
  cases o <;> rfl

@[simp] theorem lost_ofInvalidate (i : Identity) (o : InvalidateOutcome) :
    (ofInvalidate i o).lost = [] := by
  cases o <;> rfl

@[simp] theorem lost_ofRelease (o : ReleaseOutcome) : (ofRelease o).lost = [] := by
  cases o <;> rfl

end Outcome

namespace Sound

variable {r : Registry} {ongoing : CallerId → Option Ongoing} {held : List SlotId} {c : CallerId}

/-! ## Leaving and joining the suspended callers -/

/-- A caller goes on with what it was suspended in, in its hands. -/
theorem depart {o : Ongoing} (h : Sound r ongoing held) (hc : ongoing c = some o) :
    Sound r (Function.update ongoing c none) (o.rest ++ held) where
  opened := h.opened
  distinct := h.distinct
  live := h.live
  reachable := by
    intro slot m hm hreleased
    rcases h.reachable hm hreleased with hmapped | hheld | ⟨d, m', rest, count, hd, hslot⟩
    · exact .inl hmapped
    · exact .inr (.inl (List.mem_append_right _ hheld))
    · by_cases hdc : d = c
      · subst hdc
        have ho : o = .release m' rest count := Option.some.inj (hc.symm.trans hd)
        exact .inr (.inl (List.mem_append_left _ (by simpa [ho, Ongoing.rest] using hslot)))
      · exact .inr (.inr ⟨d, m', rest, count, by simpa [hdc] using hd, hslot⟩)
  due := by
    rintro slot (hheld | ⟨d, m', rest, count, hd, hslot⟩)
    · rcases List.mem_append.mp hheld with hrest | hheld
      · cases o with
        | release m rest count => exact h.due (.inr ⟨c, m, rest, count, hc, hrest⟩)
        | fetch q phase => simp [Ongoing.rest] at hrest
        | invalidation i m => simp [Ongoing.rest] at hrest
      · exact h.due (.inl hheld)
    · by_cases hdc : d = c
      · simp [hdc] at hd
      · exact h.due (.inr ⟨d, m', rest, count, by simpa [hdc] using hd, hslot⟩)
  working := by
    intro d q phase slot hd
    by_cases hdc : d = c
    · simp [hdc] at hd
    · exact h.working (by simpa [hdc] using hd)
  building := by
    intro d q slot span hd
    by_cases hdc : d = c
    · simp [hdc] at hd
    · exact h.building (by simpa [hdc] using hd)

/-- A caller is suspended, with what was in its hands. -/
theorem suspend {o : Ongoing} (h : Sound r ongoing (o.rest ++ held)) (idle : ongoing c = none)
    (hworking : ∀ {q phase slot}, o = .fetch q phase → phase.slot? = some slot →
      slot < r.cells.size ∧ ∀ key, r.slots.get? key = some slot → key = q.identity.key)
    (hbuilding : ∀ {q slot span}, o = .fetch q (.building slot span) →
      ∃ queue, r.cell slot = .building c queue) :
    Sound r (Function.update ongoing c (some o)) held where
  opened := h.opened
  distinct := h.distinct
  live := h.live
  reachable := by
    intro slot m hm hreleased
    rcases h.reachable hm hreleased with hmapped | hheld | ⟨d, m', rest, count, hd, hslot⟩
    · exact .inl hmapped
    · rcases List.mem_append.mp hheld with hrest | hheld
      · cases o with
        | release m' rest count => exact .inr (.inr ⟨c, m', rest, count, by simp, hrest⟩)
        | fetch q phase => simp [Ongoing.rest] at hrest
        | invalidation i m => simp [Ongoing.rest] at hrest
      · exact .inr (.inl hheld)
    · have hdc : d ≠ c := fun heq => by simp [heq, idle] at hd
      exact .inr (.inr ⟨d, m', rest, count, by simpa [hdc] using hd, hslot⟩)
  due := by
    rintro slot (hheld | ⟨d, m', rest, count, hd, hslot⟩)
    · exact h.due (.inl (List.mem_append_right _ hheld))
    · by_cases hdc : d = c
      · have ho : o = .release m' rest count := by simpa [hdc] using hd
        exact h.due (.inl (List.mem_append_left _ (by simpa [ho, Ongoing.rest] using hslot)))
      · exact h.due (.inr ⟨d, m', rest, count, by simpa [hdc] using hd, hslot⟩)
  working := by
    intro d q phase slot hd
    by_cases hdc : d = c
    · exact hworking (by simpa [hdc] using hd)
    · exact h.working (by simpa [hdc] using hd)
  building := by
    intro d q slot span hd
    by_cases hdc : d = c
    · rw [hdc]
      exact hbuilding (by simpa [hdc] using hd)
    · exact h.building (by simpa [hdc] using hd)

theorem suspend_waiting {q : Request} {slot : SlotId} (h : Sound r ongoing held)
    (idle : ongoing c = none) (hslot : slot < r.cells.size)
    (hkeys : ∀ key, r.slots.get? key = some slot → key = q.identity.key) :
    Sound r (Function.update ongoing c (some (.fetch q (.waiting slot)))) held := by
  refine suspend (o := .fetch q (.waiting slot)) h idle ?_ ?_
  · intro q' phase other heq hphase
    cases heq
    cases hphase
    exact ⟨hslot, hkeys⟩
  · intro q' other span heq
    cases heq

theorem suspend_building {q : Request} {slot : SlotId} {span : SpanId} {queue : List CallerId}
    (h : Sound r ongoing held) (idle : ongoing c = none) (hslot : slot < r.cells.size)
    (hkeys : ∀ key, r.slots.get? key = some slot → key = q.identity.key)
    (hcell : r.cell slot = .building c queue) :
    Sound r (Function.update ongoing c (some (.fetch q (.building slot span)))) held := by
  refine suspend (o := .fetch q (.building slot span)) h idle ?_ ?_
  · intro q' phase other heq hphase
    cases heq
    cases hphase
    exact ⟨hslot, hkeys⟩
  · intro q' other span' heq
    cases heq
    exact ⟨queue, hcell⟩

theorem suspend_closing {q : Request} {slot : SlotId} {m : Mediator} (h : Sound r ongoing held)
    (idle : ongoing c = none) :
    Sound r (Function.update ongoing c (some (.fetch q (.closing slot m)))) held := by
  refine suspend (o := .fetch q (.closing slot m)) h idle ?_ ?_
  · intro q' phase other heq hphase
    cases heq
    cases hphase
  · intro q' other span heq
    cases heq

theorem suspend_invalidation {i : Identity} {m : Mediator} (h : Sound r ongoing held)
    (idle : ongoing c = none) :
    Sound r (Function.update ongoing c (some (.invalidation i m))) held :=
  suspend (o := .invalidation i m) h idle nofun nofun

theorem suspend_release {m : Mediator} {rest : List SlotId} {count : Nat}
    (h : Sound r ongoing (rest ++ held)) (idle : ongoing c = none) :
    Sound r (Function.update ongoing c (some (.release m rest count))) held :=
  suspend (o := .release m rest count) h idle nofun nofun

theorem stay_idle (h : Sound r ongoing held) (idle : ongoing c = none) :
    Sound r (Function.update ongoing c none) held := by
  rw [← idle, Function.update_eq_self]
  exact h

/-! ## Asking for a mediator -/

/-- Nobody builds in a slot whose cell has no holder but an idle caller. -/
theorem nobody_builds {slot : SlotId} (h : Sound r ongoing held) (idle : ongoing c = none)
    (hcell : ∀ {holder queue}, r.cell slot = .building holder queue → holder = c)
    {d : CallerId} {q : Request} {span : SpanId} :
    ongoing d ≠ some (.fetch q (.building slot span)) := by
  intro hd
  obtain ⟨queue, hqueue⟩ := h.building hd
  have hdc : d = c := hcell hqueue
  rw [hdc, idle] at hd
  cases hd

theorem nobody_builds_held {slot : SlotId} {queue : List CallerId} (h : Sound r ongoing held)
    (idle : ongoing c = none) (hcell : r.cell slot = .building c queue)
    {d : CallerId} {q : Request} {span : SpanId} :
    ongoing d ≠ some (.fetch q (.building slot span)) := by
  refine h.nobody_builds idle ?_
  intro holder queue' hholder
  rw [hcell] at hholder
  cases hholder
  rfl

/-- A vacant slot is taken by an idle caller, who builds in it. -/
theorem claim {q : Request} {slot : SlotId} (h : Sound r ongoing held) (idle : ongoing c = none)
    (hslot : slot < r.cells.size)
    (hkeys : ∀ key, r.slots.get? key = some slot → key = q.identity.key)
    (hcell : r.cell slot = .vacant) (span : SpanId) :
    Sound (r.setCell slot (.building c []))
      (Function.update ongoing c (some (.fetch q (.building slot span)))) held := by
  have hfree : ∀ {d q span}, ongoing d ≠ some (.fetch q (.building slot span)) :=
    h.nobody_builds idle (by simp [hcell])
  have hclaimed : Sound (r.setCell slot (.building c [])) ongoing held :=
    h.setCell (Registry.mediator?_of_vacant hcell) (by simp) fun hd => absurd hd hfree
  exact hclaimed.suspend_building idle (by simpa using hslot) hkeys
    (Registry.cell_setCell_self hslot (.building c []))

theorem attempt (h : Sound r ongoing held) (idle : ongoing c = none) (q : Request)
    (fresh : SpanId) :
    Sound (Fetch.attempt r c q fresh).registry
      (Function.update ongoing c (Outcome.ofFetch q (Fetch.attempt r c q fresh).outcome).ongoing?)
      held := by
  have hs := h.slotFor q.identity
  have hled := r.slot?_slotFor q.identity
  have hcases := Fetch.attempt_cases r c q fresh
  dsimp only at hcases
  generalize (r.slotFor q.identity).1 = slot at hled hcases
  generalize (r.slotFor q.identity).2 = r' at hs hled hcases
  have hslot : slot < r'.cells.size := hs.opened hled
  have hkeys : ∀ key, r'.slots.get? key = some slot → key = q.identity.key :=
    fun key hkey => hs.distinct hkey hled
  rcases hcases with ⟨-, hreg, hout⟩ | ⟨hcell, hreg, hout⟩ | ⟨holder, queue, hcell, hreg, hout⟩
  · rw [hreg, hout]
    exact hs.stay_idle idle
  · rw [hreg, hout]
    exact hs.claim idle hslot hkeys hcell fresh
  · rw [hreg, hout]
    refine suspend_waiting ?_ idle (by simpa using hslot) hkeys
    refine hs.setCell (Registry.mediator?_of_building hcell) (by simp) ?_
    intro d q' span hd
    obtain ⟨queue', hqueue⟩ := hs.building hd
    rw [hcell] at hqueue
    cases hqueue
    exact ⟨_, rfl⟩

theorem settle {q : Request} {slot : SlotId} (idle : ongoing c = none)
    (hown : r.slot? q.identity = some slot → Sound r ongoing held)
    (horphan : r.slot? q.identity ≠ some slot → Sound r ongoing (slot :: held))
    (fresh : SpanId) (constructed : Bool) :
    Sound (Fetch.settle r c q fresh slot constructed).registry
      (Function.update ongoing c
        (Outcome.ofFetch q (Fetch.settle r c q fresh slot constructed).outcome).ongoing?) held := by
  rcases Fetch.settle_cases r c q fresh slot constructed with
    ⟨howns, hreg, hout⟩ | ⟨howns, hreg, hout⟩ | ⟨howns, hreg, m, hout⟩
  · rw [hreg, hout]
    exact (hown howns).stay_idle idle
  · rw [hreg, hout]
    exact (horphan howns).beginClose.attempt idle q fresh
  · rw [hreg, hout]
    exact (horphan howns).beginClose.suspend_closing idle

theorem fetch_start (h : Sound r ongoing held) (idle : ongoing c = none) (q : Request)
    (fresh : SpanId) :
    Sound (Fetch.start r c q fresh).registry
      (Function.update ongoing c (Outcome.ofFetch q (Fetch.start r c q fresh).outcome).ongoing?)
      held := by
  rcases Fetch.start_cases r c q fresh with ⟨slot, -, hreg, hout⟩ | ⟨-, hattempt⟩
  · rw [hreg, hout]
    exact h.stay_idle idle
  · rw [hattempt]
    exact h.attempt idle q fresh

/-- A slot that only one key may lead to, and does not, is an orphan. -/
theorem orphan_of_not_own {q : Request} {slot : SlotId}
    (hkeys : ∀ key, r.slots.get? key = some slot → key = q.identity.key)
    (hown : r.slot? q.identity ≠ some slot) : ¬ r.Mapped slot := by
  rintro ⟨key, hkey⟩
  have heq := hkeys key hkey
  exact hown (by rw [Registry.slot?, ← heq]; exact hkey)

theorem resume {q : Request} {slot : SlotId} (h : Sound r ongoing held) (idle : ongoing c = none)
    (hslot : slot < r.cells.size)
    (hkeys : ∀ key, r.slots.get? key = some slot → key = q.identity.key) (fresh : SpanId) :
    Sound (Fetch.resume r c q fresh slot).registry
      (Function.update ongoing c
        (Outcome.ofFetch q (Fetch.resume r c q fresh slot).outcome).ongoing?) held := by
  rcases Fetch.resume_cases r c q fresh slot with ⟨-, heq⟩ | ⟨queue, hcell, hreg, hout⟩ |
    ⟨holder, queue, hcell, hholder, hreg, hout⟩ | ⟨hcell, hreg, hout⟩
  · rw [heq]
    exact settle idle (fun _ => h) (fun hown => h.hold hslot (orphan_of_not_own hkeys hown))
      fresh false
  · rw [hreg, hout]
    exact h.suspend_building idle hslot hkeys hcell
  · rw [hreg, hout]
    exact h.suspend_waiting idle hslot hkeys
  · rw [hreg, hout]
    exact h.claim idle hslot hkeys hcell fresh

theorem built {q : Request} {slot : SlotId} {queue : List CallerId} (h : Sound r ongoing held)
    (idle : ongoing c = none) (hslot : slot < r.cells.size)
    (hkeys : ∀ key, r.slots.get? key = some slot → key = q.identity.key)
    (hcell : r.cell slot = .building c queue) (fresh span : SpanId) (p : Provision) :
    Sound (Fetch.built r c q fresh slot span p).registry
      (Function.update ongoing c
        (Outcome.ofFetch q (Fetch.built r c q fresh slot span p).outcome).ongoing?) held := by
  have hfree : ∀ {d q span}, ongoing d ≠ some (.fetch q (.building slot span)) :=
    h.nobody_builds_held idle hcell
  have hidentity : ∀ key, r.slots.get? key = some slot → (q.filling p).identity.key = key :=
    fun key hkey => (hkeys key hkey).symm
  obtain ⟨hreg, hout⟩ := Fetch.built_eq r c q fresh slot span p
  rw [hreg, hout]
  refine settle idle ?_ ?_ fresh true
  · intro hown
    exact h.fill hslot rfl hidentity (.inl ⟨_, hown⟩) hfree
  · intro hown
    have horphan : ¬ r.Mapped slot := orphan_of_not_own hkeys hown
    exact (h.hold hslot horphan).fill hslot rfl hidentity (.inr (.inl List.mem_cons_self)) hfree

theorem abandon {q : Request} {phase : FetchPhase} (h : Sound r ongoing held)
    (hc : ongoing c = some (.fetch q phase)) :
    Sound (Fetch.abandon r c phase).registry (Function.update ongoing c none) held := by
  have hd : Sound r (Function.update ongoing c none) held := by
    simpa [Ongoing.rest] using h.depart hc
  have idle : Function.update ongoing c none c = none := by simp
  rcases Fetch.abandon_cases r c phase with hreg | ⟨slot, cell, -, hreg, hbuilt, hcell⟩
  · rw [hreg]
    exact hd
  · rw [hreg]
    rcases hcell with ⟨span, rfl⟩ | ⟨holder, queue, hqueue, hholder⟩
    · -- the builder itself leaves, and it was the only one
      obtain ⟨queue, hqueue⟩ := h.building hc
      refine hd.setCell (Registry.mediator?_of_building hqueue) hbuilt fun hd' => absurd hd' ?_
      exact hd.nobody_builds_held idle hqueue
    · refine hd.setCell (Registry.mediator?_of_building hqueue) hbuilt fun hd' => ?_
      rcases hholder with rfl | ⟨queue', rfl⟩
      · exact absurd hd' (hd.nobody_builds_held idle hqueue)
      · obtain ⟨queue'', hqueue''⟩ := hd.building hd'
        rw [hqueue] at hqueue''
        cases hqueue''
        exact ⟨queue', rfl⟩

/-! ## Invalidation and release -/

theorem invalidate_start (h : Sound r ongoing held) (idle : ongoing c = none) (i : Identity) :
    Sound (Invalidate.start r i).registry
      (Function.update ongoing c (Outcome.ofInvalidate i (Invalidate.start r i).outcome).ongoing?)
      held := by
  rcases Invalidate.start_cases r i with ⟨-, hreg, hout⟩ | ⟨slot, hslot, hreg, hout⟩
  · rw [hreg, hout]
    exact h.stay_idle idle
  · have hclosed := (h.remove hslot).beginClose
    rcases hout with hout | ⟨m, hout⟩
    · rw [hreg, hout]
      exact hclosed.stay_idle idle
    · rw [hreg, hout]
      exact hclosed.suspend_invalidation idle

theorem drain {slots : List SlotId} (h : Sound r ongoing (slots ++ held)) (idle : ongoing c = none)
    (count : Nat) :
    Sound (Release.drain r count slots).registry
      (Function.update ongoing c (Outcome.ofRelease (Release.drain r count slots).outcome).ongoing?)
      held := by
  induction slots generalizing r count with
  | nil =>
    obtain ⟨hreg, hout⟩ := Release.drain_nil r count
    rw [hreg, hout]
    exact stay_idle h idle
  | cons slot rest ih =>
    have hclosed : Sound (r.beginClose slot).2 ongoing (rest ++ held) := beginClose h
    rcases Release.drain_cons r count slot rest with ⟨count', hreg, hout⟩ | ⟨hreg, m, hout⟩
    · rw [hreg, hout]
      exact ih hclosed count'
    · rw [hreg, hout]
      exact hclosed.suspend_release idle

theorem release_start (h : Sound r ongoing held) (idle : ongoing c = none) (fresh : SpanId) :
    Sound (Release.start r fresh).registry
      (Function.update ongoing c (Outcome.ofRelease (Release.start r fresh).outcome).ongoing?)
      held := by
  obtain ⟨hreg, hout⟩ := Release.start_eq r fresh
  rw [hreg, hout]
  exact h.drained.drain idle 0

/-! ## Steps and runs -/

variable {s : Shared}

theorem stretch {a : Action} {st : Stretch Outcome} (h : Sound s.registry s.ongoing held)
    (ht : Shared.Takes s c a st) :
    Sound st.registry (Function.update s.ongoing c st.outcome.ongoing?)
      (st.outcome.lost ++ held) := by
  have idle' : Function.update s.ongoing c none c = none := by simp
  cases ht with
  | fetch q idle => simpa [Stretch.map] using h.fetch_start idle q s.spans
  | lookup i idle => exact h.stay_idle idle
  | invalidate i idle => simpa [Stretch.map] using h.invalidate_start idle i
  | release idle => simpa [Stretch.map] using h.release_start idle s.spans
  | @resume q slot here =>
    obtain ⟨hslot, hkeys⟩ := h.working here rfl
    simpa [Stretch.map, Ongoing.rest] using (h.depart here).resume idle' hslot hkeys s.spans
  | @built q slot span p here =>
    obtain ⟨hslot, hkeys⟩ := h.working here rfl
    obtain ⟨queue, hcell⟩ := h.building here
    simpa [Stretch.map, Ongoing.rest] using
      (h.depart here).built idle' hslot hkeys hcell s.spans span p
  | @closed q slot m failure here =>
    obtain ⟨hreg, hout⟩ := Fetch.closed_eq s.registry c q s.spans m failure
    simpa [Stretch.map, Ongoing.rest, hreg, hout] using (h.depart here).attempt idle' q s.spans
  | @abandon q phase here =>
    simpa [Stretch.map, Outcome.ongoing?, Outcome.lost, Ongoing.rest] using h.abandon here
  | invalidated failure here => exact h.depart here
  | abandonInvalidation here => exact h.depart here
  | @released m rest count failure here =>
    obtain ⟨hreg, hout⟩ := Release.closed_eq s.registry m rest count failure
    simpa [Stretch.map, Ongoing.rest, hreg, hout] using (h.depart here).drain idle' count
  | abandonRelease here => exact h.depart here

end Sound

/-- The slots that releases abandoned in the middle had before them. -/
def lost (ts : List Transition) : List SlotId :=
  ts.flatMap fun t => t.outcome.lost

namespace Shared

/-- The invariant between two stretches, with the slots that abandoned releases let fall. -/
def Sound (s : Shared) (held : List SlotId) : Prop :=
  ShadowTraffic.Sound s.registry s.ongoing held

theorem Sound.initial : Sound {} [] :=
  ShadowTraffic.Sound.empty

theorem Sound.step {s : Shared} {held : List SlotId} {c : CallerId} {a : Action} {t : Transition}
    (h : s.Sound held) (ht : s.step c a = some t) : t.after.Sound (t.outcome.lost ++ held) := by
  obtain ⟨-, -, -, st, htakes, hout, hafter⟩ := step_spec ht
  rw [hout, hafter]
  exact h.stretch htakes

/-- A run keeps the invariant; what abandoned releases had before them is lost. -/
theorem Sound.run {s : Shared} {held : List SlotId} (h : s.Sound held) (schedule : Schedule) :
    ∃ held', (s.run schedule).final.Sound held' ∧
      ∀ slot, slot ∈ held' ↔ slot ∈ lost (s.run schedule).transitions ∨ slot ∈ held := by
  induction schedule generalizing s held with
  | nil => exact ⟨held, h, by simp [Shared.run, System.run, lost]⟩
  | cons e schedule ih =>
    obtain ⟨c, a⟩ := e
    cases hstep : s.step c a with
    | none => simpa only [run_cons_none hstep] using ih h
    | some t =>
      obtain ⟨held', hsound, hmem⟩ := ih (h.step hstep)
      refine ⟨held', by rw [run_cons_some hstep]; exact hsound, fun slot => ?_⟩
      rw [hmem, run_cons_some hstep]
      simp only [lost, List.flatMap_cons, List.mem_append]
      tauto

/-- A registry in use is sound after any schedule. -/
theorem sound_run (schedule : Schedule) : ∃ held, (({} : Shared).run schedule).final.Sound held :=
  (Sound.initial.run schedule).imp fun _ h => h.1

end Shared

end ShadowTraffic
