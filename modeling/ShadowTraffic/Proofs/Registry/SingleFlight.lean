import Mathlib.Tactic.ByContra
import ShadowTraffic.Proofs.Registry.Gathering

/-! # Single flight

Callers ask for one identity, in any order and with any factories, and may go away at any point;
its entry stays in the map. At most one of them builds at a time, at most one build is completed,
and all that return are given the mediator of that build.
-/

namespace ShadowTraffic

namespace Shared

variable {s : Shared} {held : List SlotId} {c d : CallerId} {a : Action} {t : Transition}
  {i : Identity}

/-! ## One transition -/

/-- Only one caller can build, for there is only one slot to build in. -/
theorem Gathered.builder_unique (h : s.Gathered i) (hs : s.Sound held)
    (hc : s.builds i c = true) (hd : s.builds i d = true) : c = d := by
  obtain ⟨q, slot, span, hongoing, hq⟩ := builds_iff.mp hc
  obtain ⟨q', slot', span', hongoing', hq'⟩ := builds_iff.mp hd
  obtain ⟨k, hslot, hk⟩ := h c q _ hongoing hq
  obtain ⟨k', hslot', hk'⟩ := h d q' _ hongoing' hq'
  cases hk
  cases hk'
  have heq : slot = slot' := Option.some.inj (hslot.symm.trans hslot')
  obtain ⟨queue, hcell⟩ := hs.building hongoing
  obtain ⟨queue', hcell'⟩ := hs.building hongoing'
  rw [← heq, hcell] at hcell'
  cases hcell'
  rfl

/-- Where a caller builds, the entry is not filled yet. -/
theorem Gathered.not_cached (h : s.Gathered i) (hs : s.Sound held)
    (hc : s.builds i c = true) : s.cached i = false := by
  obtain ⟨q, slot, span, hongoing, hq⟩ := builds_iff.mp hc
  obtain ⟨k, hslot, hk⟩ := h c q _ hongoing hq
  cases hk
  obtain ⟨queue, hcell⟩ := hs.building hongoing
  have hempty : s.registry.filling? slot = none :=
    Registry.filling?_eq_none.mpr (Registry.mediator?_of_building hcell)
  rw [← Bool.not_eq_true, cached_iff]
  rintro ⟨slot', m, hslot', hm⟩
  rw [Option.some.inj (hslot.symm.trans hslot')] at hempty
  rw [hempty] at hm
  cases hm

theorem cached_of_cached (hs : s.Sound held) (ht : s.step c a = some t) (hkept : ¬ t.Removes i)
    (h : s.cached i = true) : t.after.cached i = true := by
  obtain ⟨slot, m, hslot, hm⟩ := cached_iff.mp h
  exact cached_iff.mpr
    ⟨slot, m, slot?_of_not_removes ht hkept hslot, (hs.later_step ht).filling hm⟩

/-- An entry that gets filled is filled by a build for its identity. -/
theorem completes_of_cached (hs : s.Sound held) (ht : s.step c a = some t)
    (hbefore : s.cached i = false) (hafter : t.after.cached i = true) :
    t.completes i = true := by
  have hlater := hs.later_step ht
  obtain ⟨rfl, rfl, -, -⟩ := step_spec ht
  obtain ⟨slot, m, hslot, hm⟩ := cached_iff.mp hafter
  rw [hs.filling?_step ht, Option.or_eq_some_iff] at hm
  rcases hm with hfills | ⟨-, hm⟩
  · obtain ⟨q, p, hcompletion, -⟩ := Transition.fills?_eq_some.mp hfills
    obtain ⟨span, hongoing, -⟩ := Transition.completion?_eq_some.mp hcompletion
    obtain ⟨hlt, hkeys⟩ := hs.working hongoing rfl
    have hkey : i.key = q.identity.key := hkeys i.key (hlater.old hlt hslot)
    exact Transition.completes_iff.mpr
      ⟨q, slot, p, hcompletion, (Identity.key_injective hkey).symm⟩
  · have hlt := Registry.lt_of_filling? hm
    have hcached : t.before.cached i = true :=
      cached_iff.mpr ⟨slot, m, hlater.old hlt hslot, hm⟩
    rw [hbefore] at hcached
    cases hcached

theorem Gathered.cached_of_completes (h : s.Gathered i) (hs : s.Sound held)
    (ht : s.step c a = some t) (hkept : ¬ t.Removes i) (hcompletes : t.completes i = true) :
    t.after.cached i = true := by
  obtain ⟨q, slot, p, hcompletion, hq⟩ := Transition.completes_iff.mp hcompletes
  obtain ⟨span, hongoing, -⟩ := Transition.completion?_eq_some.mp hcompletion
  obtain ⟨hbefore, -⟩ := step_spec ht
  rw [hbefore] at hongoing
  obtain ⟨k, hslot, hk⟩ := h t.caller q _ hongoing hq
  cases hk
  have hfills : t.fills? slot = some (q.filling p) :=
    Transition.fills?_eq_some.mpr ⟨q, p, hcompletion, rfl⟩
  refine cached_iff.mpr ⟨slot, q.filling p, slot?_of_not_removes ht hkept hslot, ?_⟩
  rw [hs.filling?_step ht, hfills, Option.some_or]

/-- The entry is filled when a build for it is completed, and not before. -/
theorem Gathered.completes_add (h : s.Gathered i) (hs : s.Sound held) (ht : s.step c a = some t)
    (hkept : ¬ t.Removes i) :
    (t.completes i).toNat + (s.cached i).toNat = (t.after.cached i).toNat := by
  cases hcompletes : t.completes i with
  | true =>
    have hbuilds : s.builds i c = true := by
      have hbefore := builds_before (i := i) ht
      cases hb : s.builds i c with
      | true => rfl
      | false =>
        rw [hb, hcompletes, Bool.toNat_false, Bool.toNat_true] at hbefore
        omega
    rw [h.not_cached hs hbuilds, h.cached_of_completes hs ht hkept hcompletes]
    rfl
  | false =>
    cases hbefore : s.cached i with
    | true => rw [cached_of_cached hs ht hkept hbefore]; rfl
    | false =>
      cases hafter : t.after.cached i with
      | false => rfl
      | true =>
        rw [completes_of_cached hs ht hbefore hafter] at hcompletes
        cases hcompletes

/-! ## Runs -/

open Classical in
/-- Whether a build for the identity is in flight, as a number. -/
noncomputable def inFlight (s : Shared) (i : Identity) : Nat :=
  if ∃ c, s.builds i c = true then 1 else 0

open Classical in
/-- Whether a caller other than the given one builds, as a number. -/
noncomputable def inFlightBeside (s : Shared) (i : Identity) (c : CallerId) : Nat :=
  if ∃ d, d ≠ c ∧ s.builds i d = true then 1 else 0

open Classical in
theorem inFlight_eq (h : ∀ {d}, s.builds i c = true → s.builds i d = true → c = d) :
    s.inFlight i = (s.builds i c).toNat + s.inFlightBeside i c := by
  unfold inFlight inFlightBeside
  cases hc : s.builds i c with
  | true =>
    have hall : ∃ d, s.builds i d = true := ⟨c, hc⟩
    have hnone : ¬ ∃ d, d ≠ c ∧ s.builds i d = true := by
      rintro ⟨d, hne, hd⟩
      exact hne (h hc hd).symm
    rw [if_pos hall, if_neg hnone]
    rfl
  | false =>
    have hiff : (∃ d, s.builds i d = true) ↔ ∃ d, d ≠ c ∧ s.builds i d = true := by
      constructor
      · rintro ⟨d, hd⟩
        refine ⟨d, ?_, hd⟩
        rintro rfl
        rw [hc] at hd
        cases hd
      · rintro ⟨d, -, hd⟩
        exact ⟨d, hd⟩
    rw [Bool.toNat_false, Nat.zero_add]
    exact if_congr hiff rfl rfl

open Classical in
theorem inFlightBeside_step (ht : s.step c a = some t) :
    t.after.inFlightBeside i c = s.inFlightBeside i c := by
  have hiff : (∃ d, d ≠ c ∧ t.after.builds i d = true) ↔ ∃ d, d ≠ c ∧ s.builds i d = true :=
    exists_congr fun d => and_congr_right fun hne => by rw [builds_of_ne ht hne]
  exact if_congr hiff rfl rfl

/-- What a transition starts, completes and drops accounts for what is in flight. -/
theorem Gathered.starts_add (h : s.Gathered i) (hs : s.Sound held) (ht : s.step c a = some t)
    (hkept : ¬ t.Removes i) :
    (t.starts i).toNat + s.inFlight i =
      (t.completes i).toNat + (t.drops i).toNat + t.after.inFlight i := by
  have hbefore := inFlight_eq (c := c) fun {d} => h.builder_unique hs (d := d)
  have hafter := inFlight_eq (c := c) fun {d} =>
    (h.step ht hkept).builder_unique (hs.step ht) (d := d)
  have hbeside := inFlightBeside_step (i := i) ht
  have hbuilds := builds_before (i := i) ht
  have hstarts := builds_after (i := i) ht
  rw [hstarts] at hafter
  omega

/-- What holds of a run over which the entry of an identity stays. -/
structure Tally (i : Identity) (s : Shared) (r : Run Shared Transition) : Prop where
  gathered : r.final.Gathered i
  builds : r.transitions.countP (·.starts i) + s.inFlight i =
    r.transitions.countP (·.completes i) + r.transitions.countP (·.drops i) + r.final.inFlight i
  fillings : r.transitions.countP (·.completes i) + (s.cached i).toNat = (r.final.cached i).toNat

theorem Gathered.tally (h : s.Gathered i) (hs : s.Sound held) (schedule : Schedule)
    (hkept : ∀ t ∈ (s.run schedule).transitions, ¬ t.Removes i) :
    Tally i s (s.run schedule) := by
  induction schedule generalizing s held with
  | nil => exact ⟨h, by simp [run, System.run], by simp [run, System.run]⟩
  | cons e schedule ih =>
    obtain ⟨c, a⟩ := e
    cases hstep : s.step c a with
    | none =>
      rw [run_cons_none hstep] at hkept ⊢
      exact ih h hs hkept
    | some t =>
      rw [run_cons_some hstep] at hkept ⊢
      have ht := hkept t List.mem_cons_self
      have hstarts := h.starts_add hs hstep ht
      have hcompletes := h.completes_add hs hstep ht
      have hrest := ih (h.step hstep ht) (hs.step hstep)
        fun u hu => hkept u (List.mem_cons_of_mem _ hu)
      have hbuilds := hrest.builds
      have hfillings := hrest.fillings
      refine ⟨hrest.gathered, ?_, ?_⟩
      · simp only [countP_cons_toNat]
        omega
      · simp only [countP_cons_toNat]
        omega

/-- Once the entry is filled no build starts. -/
theorem Gathered.not_starts (h : s.Gathered i) (hs : s.Sound held) (schedule : Schedule)
    (hkept : ∀ t ∈ (s.run schedule).transitions, ¬ t.Removes i) (hcached : s.cached i = true)
    (ht : t ∈ (s.run schedule).transitions) : t.starts i = false := by
  obtain ⟨first, e, rest, rfl, hstep⟩ := run_mem ht
  have ht' := hkept t ht
  rw [run_append] at hkept
  have hfirst := h.tally hs first fun u hu => hkept u (List.mem_append_left _ hu)
  obtain ⟨held', hs', -⟩ := hs.run first
  have hfillings := hfirst.fillings
  rw [hcached] at hfillings
  have hbefore : (s.run first).final.cached i = true := by
    cases hc : (s.run first).final.cached i with
    | true => rfl
    | false =>
      rw [hc, Bool.toNat_true, Bool.toNat_false] at hfillings
      omega
  have hafter := cached_of_cached hs' hstep ht' hbefore
  cases hstarts : t.starts i with
  | false => rfl
  | true =>
    rw [← builds_after hstep] at hstarts
    rw [(hfirst.gathered.step hstep ht').not_cached (hs'.step hstep) hstarts] at hafter
    cases hafter

/-- What a fetch returns is current, and was in its slot before the run or was built in it. -/
theorem Sound.fetched_from (hs : s.Sound held) (schedule : Schedule) {q : Request} {slot : SlotId}
    (ht : t ∈ (s.run schedule).transitions) (hout : t.outcome = .returned (.fetched q slot)) :
    ∃ m, t.after.registry.Current q.identity slot m ∧
      (s.registry.filling? slot = some m ∨
        ∃ u ∈ (s.run schedule).transitions, u.fills? slot = some m) := by
  obtain ⟨first, e, rest, -, hstep⟩ := run_mem ht
  obtain ⟨held', hs', -⟩ := hs.run first
  obtain ⟨m, hm⟩ := hs'.given hstep hout rfl
  refine ⟨m, hm, ?_⟩
  obtain ⟨upto, rest', rfl, hupto⟩ := run_after ht
  have hfilling : (s.run upto).final.registry.filling? slot = some m := by
    rw [hupto, hm.filling_eq]
  rcases hs.filling?_run upto hfilling with hbefore | ⟨u, hu, hfills⟩
  · exact .inl hbefore
  · rw [run_append]
    exact .inr ⟨u, List.mem_append_left _ hu, hfills⟩

/-- What a fetch returns stays in the map to the end of the run. -/
theorem Sound.fetched_final (hs : s.Sound held) (schedule : Schedule)
    (hkept : ∀ t ∈ (s.run schedule).transitions, ¬ t.Removes i) {q : Request} {slot : SlotId}
    (ht : t ∈ (s.run schedule).transitions) (hout : t.outcome = .returned (.fetched q slot))
    (hq : q.identity = i) :
    (s.run schedule).final.registry.slot? i = some slot ∧
      (s.run schedule).final.registry.filling? slot = t.after.registry.mediator? slot := by
  obtain ⟨m, hm, -⟩ := hs.fetched_from schedule ht hout
  obtain ⟨upto, rest, rfl, hupto⟩ := run_after ht
  obtain ⟨held', hs', -⟩ := hs.run upto
  rw [run_append, hupto] at hkept ⊢
  rw [hupto] at hs'
  constructor
  · exact slot?_run rest (fun u hu => hkept u (List.mem_append_right _ hu)) (hq ▸ hm.slot_eq)
  · rw [hm.mediator_eq]
    exact (hs'.later_run rest).filling hm.filling_eq

/-- What a run comes to over which the entry of an identity stays: the builds for the identity,
and what those who asked for it are given. -/
structure OneBuild (i : Identity) (s : Shared) (r : Run Shared Transition) : Prop where
  in_flight : ∀ {c d}, r.final.builds i c = true → r.final.builds i d = true → c = d
  completed : r.transitions.countP (·.completes i) ≤ 1
  accounted : r.transitions.countP (·.starts i) =
    r.transitions.countP (·.completes i) + r.transitions.countP (·.drops i) + r.final.inFlight i
  /-- A caller that asks is suspended, is given what is current, or goes away. -/
  answered : ∀ {t q}, t ∈ r.transitions → q.identity = i →
    (t.action = .fetch q ∨ ∃ phase, t.before.ongoing t.caller = some (.fetch q phase)) →
    (∃ phase, t.outcome = .suspended (.fetch q phase)) ∨
      (∃ slot m, t.outcome = .returned (.fetched q slot) ∧ t.after.registry.Current i slot m) ∨
      ∃ phase, t.outcome = .abandoned (.fetch q phase)
  /-- All that return are given one mediator. -/
  same : ∀ {t u q q' slot slot'}, t ∈ r.transitions → u ∈ r.transitions →
    t.outcome = .returned (.fetched q slot) → u.outcome = .returned (.fetched q' slot') →
    q.identity = i → q'.identity = i →
    slot = slot' ∧ t.after.registry.mediator? slot = u.after.registry.mediator? slot'
  /-- It is what the completed build gave, or what was in the map before. -/
  origin : ∀ {t q slot}, t ∈ r.transitions → t.outcome = .returned (.fetched q slot) →
    q.identity = i →
    (∃ u ∈ r.transitions, ∃ q' p, u.completion? = some (q', slot, p) ∧ q'.identity = i ∧
      t.after.registry.mediator? slot = some (q'.filling p)) ∨
    (r.transitions.countP (·.completes i) = 0 ∧ s.registry.slot? i = some slot ∧
      t.after.registry.mediator? slot = s.registry.mediator? slot)
  late : ∀ {earlier later t}, r.transitions = earlier ++ t :: later → t.completes i = true →
    ∀ u ∈ later, u.starts i = false

theorem Gathered.oneBuild (h : s.Gathered i) (hs : s.Sound held) (schedule : Schedule)
    (hidle : s.inFlight i = 0)
    (hkept : ∀ t ∈ (s.run schedule).transitions, ¬ t.Removes i) :
    OneBuild i s (s.run schedule) := by
  have htally := h.tally hs schedule hkept
  obtain ⟨held', hs', -⟩ := hs.run schedule
  have hbuilds := htally.builds
  have hfillings := htally.fillings
  constructor
  · intro c d hc hd
    exact htally.gathered.builder_unique hs' hc hd
  · have hle := Bool.toNat_le ((s.run schedule).final.cached i)
    omega
  · omega
  · intro t q ht hq hasks
    obtain ⟨first, e, rest, -, hstep⟩ := run_mem ht
    obtain ⟨held', hs', -⟩ := hs.run first
    obtain ⟨hbefore, hcaller, haction, -⟩ := step_spec hstep
    rw [hbefore, hcaller, haction] at hasks
    rcases step_fetch hstep hasks with ⟨phase, hout, -⟩ | ⟨slot, hout⟩ | hout
    · exact .inl ⟨phase, hout⟩
    · obtain ⟨m, hm⟩ := hs'.given hstep hout rfl
      exact .inr (.inl ⟨slot, m, hout, hq ▸ hm⟩)
    · exact .inr (.inr hout)
  · intro t u q q' slot slot' ht hu hout hout' hq hq'
    obtain ⟨hslot, hm⟩ := hs.fetched_final schedule hkept ht hout hq
    obtain ⟨hslot', hm'⟩ := hs.fetched_final schedule hkept hu hout' hq'
    have heq : slot = slot' := Option.some.inj (hslot.symm.trans hslot')
    subst heq
    exact ⟨rfl, hm.symm.trans hm'⟩
  · intro t q slot ht hout hq
    obtain ⟨m, hm, hfrom⟩ := hs.fetched_from schedule ht hout
    rcases hfrom with hbefore | ⟨u, hu, hfills⟩
    · -- it was there before, so that no build is completed at all
      obtain ⟨hslot, -⟩ := hs.fetched_final schedule hkept ht hout hq
      have hslot' : s.registry.slot? i = some slot :=
        (hs.later_run schedule).old (Registry.lt_of_filling? hbefore) hslot
      have hcached : s.cached i = true := cached_iff.mpr ⟨slot, m, hslot', hbefore⟩
      have hmed : s.registry.mediator? slot ≠ none := by
        rw [ne_eq, ← Registry.filling?_eq_none, hbefore]
        nofun
      obtain ⟨m', hm'⟩ := hs.current ⟨hslot', hmed⟩
      have heq : m' = m := Option.some.inj (hm'.filling_eq.symm.trans hbefore)
      refine .inr ⟨?_, hslot', ?_⟩
      · rw [hcached, Bool.toNat_true] at hfillings
        have hle := Bool.toNat_le ((s.run schedule).final.cached i)
        omega
      · rw [hm.mediator_eq, hm'.mediator_eq, heq]
    · obtain ⟨q', p, hcompletion, rfl⟩ := Transition.fills?_eq_some.mp hfills
      exact .inl ⟨u, hu, q', p, hcompletion, hm.identity_eq.trans hq, hm.mediator_eq⟩
  · intro earlier later t hsplit hcompletes u hu
    obtain ⟨first, e, rest, -, hearlier, hstep, hrest⟩ := run_split hsplit
    rw [hsplit] at hkept
    have hfirst := h.tally hs first fun v hv =>
      hkept v (List.mem_append_left _ (hearlier ▸ hv))
    have hlater : later = (t.after.run rest).transitions := by rw [hrest]
    have ht : ¬ t.Removes i := hkept t (by simp)
    obtain ⟨held'', hs'', -⟩ := hs.run first
    have hcached := hfirst.gathered.cached_of_completes hs'' hstep ht hcompletes
    refine (hfirst.gathered.step hstep ht).not_starts (hs''.step hstep) rest ?_ hcached
      (hlater ▸ hu)
    intro v hv
    exact hkept v (List.mem_append_right _ (List.mem_cons_of_mem _ (hlater ▸ hv)))

/-- Nobody asks for the identity where the schedule begins, though the registry may have been used
in any way before; afterwards no release and no invalidation takes its entry out of the map. -/
theorem single_flight (before schedule : Schedule) (i : Identity)
    (hidle : ∀ c q phase,
      (({} : Shared).run before).final.ongoing c = some (.fetch q phase) → q.identity ≠ i)
    (hkept : ∀ t ∈ ((({} : Shared).run before).final.run schedule).transitions,
      t.action = .release ∨ t.action = .invalidate i → ¬ t.Removes i) :
    OneBuild i (({} : Shared).run before).final
      ((({} : Shared).run before).final.run schedule) := by
  obtain ⟨held, hs⟩ := sound_run before
  refine (Gathered.of_idle hidle).oneBuild hs schedule ?_ ?_
  · refine if_neg ?_
    rintro ⟨c, hc⟩
    obtain ⟨q, slot, span, hongoing, hq⟩ := builds_iff.mp hc
    exact hidle c q _ hongoing hq
  · intro t ht hremoves
    obtain ⟨first, e, rest, -, hstep⟩ := run_mem ht
    obtain ⟨-, -, haction, -⟩ := step_spec hstep
    have hremover := removes_action hstep hremoves
    rw [← haction] at hremover
    exact hkept t ht hremover hremoves

/-- Three callers ask for one resource while another one is in use: the first goes away in the
middle of its build, the second takes over and gets no shadow, a fourth finds that result, and the
other resource is invalidated meanwhile. -/
def takenOver : Schedule × Identity × Schedule :=
  let other : Identity := ⟨"b", "", "", "", ""⟩
  let shared : Identity := ⟨"a", "1", "", "", ""⟩
  let ask (i : Identity) (business : Handle) : Action := .fetch ⟨i, {}, business⟩
  ([(0, ask other "z"), (0, .built (.ok (some "u")))], shared,
    [(1, ask shared "x"), (2, ask shared "y"), (3, ask shared "w"), (1, .abandon),
      (0, .invalidate other), (2, .resume), (2, .built (.error (.other "refused"))),
      (0, .closed none), (4, ask shared "v"), (3, .resume)])

theorem one_build_takenOver :
    OneBuild takenOver.2.1 (({} : Shared).run takenOver.1).final
        ((({} : Shared).run takenOver.1).final.run takenOver.2.2) ∧
      ((({} : Shared).run takenOver.1).final.run takenOver.2.2).transitions.length = 10 := by
  refine ⟨single_flight takenOver.1 takenOver.2.2 takenOver.2.1 ?_ ?_, by decide⟩
  · intro c q phase hongoing
    by_cases hc : c = 0
    · have hnone : (({} : Shared).run takenOver.1).final.ongoing 0 = none := by decide
      rw [hc, hnone] at hongoing
      cases hongoing
    · rw [run_ongoing (by simp [takenOver, Ne.symm hc])] at hongoing
      cases hongoing
  · have hkept : ∀ t ∈ ((({} : Shared).run takenOver.1).final.run takenOver.2.2).transitions,
        ¬ t.Removes takenOver.2.1 := by decide
    exact fun t ht _ => hkept t ht

end Shared

end ShadowTraffic
