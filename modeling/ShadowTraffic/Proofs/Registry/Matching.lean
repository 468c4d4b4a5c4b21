import ShadowTraffic.Proofs.Registry.Standing

/-! # Steps seen from one identity

A step that concerns the identity has its match in a run of the identity alone; any other step
leaves that run where it is.
-/

namespace ShadowTraffic

theorem Mirrors.map {α β : Type} {i : Identity} {owned : List SlotId} {r : Registry}
    {Like : List SlotId → α → α → Prop} {Like' : List SlotId → β → β → Prop} {f : α → β}
    {st st' : Stretch α} (h : Mirrors i owned r Like st st')
    (hlike : ∀ {owned₁}, Like owned₁ st.outcome st'.outcome →
      Like' owned₁ (f st.outcome) (f st'.outcome)) :
    Mirrors i owned r Like' (st.map f) (st'.map f) := by
  obtain ⟨owned₁, hwidens, hshows, hends, htold⟩ := h
  exact ⟨owned₁, hwidens, hshows, hlike hends, htold⟩

namespace Interleaved

/-- The second state is what there is of the first for the identity alone. -/
structure Alike (i : Identity) (owned : List SlotId) (s s' : Interleaved) : Prop where
  shows : Shows i owned s.registry s'.registry
  callers : ∀ c, Stands i owned s.registry (s.underway c) (s'.underway c)

/-- Whether an action concerns the identity, where its caller stands. A release does, but for the
entries of other identities. -/
def concerns (i : Identity) : Option Underway → Action → Bool
  | none, .fetch q => q.identity = i
  | none, .lookup j => j = i
  | none, .invalidate j => j = i
  | none, _ => true
  | some (.fetch q _), _ => q.identity = i
  | some (.invalidation j _), _ => j = i
  | some (.release (e :: _) _), .resume => e.1 = i.key
  | some (.release ..), _ => true
  | some (.closing e ..), .closed _ => e.1 = i.key
  | some (.closing ..), _ => true

def Transition.concerns (i : Identity) (t : Transition) : Bool :=
  Interleaved.concerns i (t.before.underway t.caller) t.action

/-- The same step in a run of the identity alone: it tells the same and ends in the same way, in
states that are alike. -/
structure Transition.Like (i : Identity) (slots : List SlotId) (t t' : Transition) : Prop where
  caller : t'.caller = t.caller
  action : t'.action = t.action
  concerns : t'.concerns i = true
  told : unnumbered t'.effects = unnumbered t.effects
  ends : ∃ owned, owned <+: slots ∧ Alike i owned t.after t'.after ∧
    t.outcome.Like i owned t.after.registry t'.outcome

/-- What a step has in the run of the identity alone. -/
def Matched (i : Identity) (owned : List SlotId) (s' : Interleaved) (t : Transition) : Prop :=
  ∃ owned₁ t', s'.step t.caller t.action = some t' ∧ owned <+: owned₁ ∧
    Alike i owned₁ t.after t'.after ∧ t.Like i owned₁ t'

variable {i : Identity} {owned owned₁ : List SlotId} {s s' : Interleaved} {c : CallerId}
  {a : Action} {r : Registry}

theorem Transition.Like.mono {t t' : Transition} {slots slots₁ : List SlotId}
    (h : t.Like i slots t') (hmore : slots <+: slots₁) : t.Like i slots₁ t' := by
  obtain ⟨owned, howned, hends⟩ := h.ends
  exact ⟨h.caller, h.action, h.concerns, h.told, owned, howned.trans hmore, hends⟩

theorem Rest.concerns {rest rest' : List (String × SlotId)} (h : Rest i owned r rest rest')
    (count' : Nat) (a : Action) :
    Interleaved.concerns i (some (.release rest' count')) a = true := by
  induction h with
  | nil => cases a <;> rfl
  | own =>
    cases a with
    | resume => exact decide_eq_true rfl
    | _ => rfl
  | other _ _ _ ih => exact ih

theorem Stands.concerns {o o' : Option Underway} (h : Stands i owned r o o')
    (hconcerns : Interleaved.concerns i o a = true) : Interleaved.concerns i o' a = true := by
  cases h with
  | idle => exact hconcerns
  | fetch => exact hconcerns
  | fetchOther hq => exact absurd (of_decide_eq_true hconcerns) hq
  | invalidation => exact hconcerns
  | invalidationOther hj => exact absurd (of_decide_eq_true hconcerns) hj
  | release hrest _ count' => exact hrest.concerns count' a
  | closing =>
    cases a with
    | closed failure => exact decide_eq_true rfl
    | _ => rfl
  | closingOther _ _ hrest _ count' => exact hrest.concerns count' a

theorem key_ne {j : Identity} (hj : j ≠ i) : j.key ≠ i.key :=
  fun hkey => hj (Identity.key_injective hkey)

/-! ## States that are alike -/

namespace Alike

theorem initial (i : Identity) : Alike i [] {} {} where
  shows := Shows.empty i
  callers _ := .idle

/-- One caller goes on, in one state or in both. -/
theorem update {u u' : Interleaved} {o o' : Option Underway} (h : Alike i owned s s')
    (hshows : Shows i owned₁ u.registry u'.registry)
    (hwidens : Widens s.registry owned u.registry owned₁)
    (hu : u.underway = Function.update s.underway c o)
    (hu' : u'.underway = Function.update s'.underway c o')
    (hstands : Stands i owned₁ u.registry o o') : Alike i owned₁ u u' := by
  refine ⟨hshows, ?_⟩
  intro d
  rw [hu, hu']
  by_cases hd : d = c
  · subst hd
    rw [Function.update_self, Function.update_self]
    exact hstands
  · rw [Function.update_of_ne hd, Function.update_of_ne hd]
    exact (h.callers d).widen hwidens

/-! ## Steps for the identity -/

theorem matched {st st' : Stretch Outcome} {t : Transition} (h : Alike i owned s s')
    (hcaller : t.caller = c) (haction : t.action = a) (hout : t.outcome = st.outcome)
    (heffects : t.effects = st.effects) (hafter : t.after = s.afterStretch c a st)
    (hconcerns : concerns i (s'.underway c) a = true) (hst' : Takes s' c a st')
    (hmirrors : Mirrors i owned s.registry (fun owned₁ => Outcome.Like i owned₁ st.registry)
      st st') : Matched i owned s' t := by
  obtain ⟨owned₁, hwidens, hshows, hlike, htold⟩ := hmirrors
  have hstep := hst'.step_eq
  rw [← hcaller, ← haction] at hstep
  have halike : Alike i owned₁ t.after (s'.afterStretch t.caller t.action st') := by
    rw [hafter, hcaller, haction]
    exact h.update hshows hwidens rfl rfl hlike.stands
  refine ⟨owned₁, _, hstep, hwidens.longer, halike, rfl, rfl, ?_, ?_, owned₁, List.prefix_refl _,
    halike, ?_⟩
  · show concerns i (s'.underway t.caller) t.action = true
    rw [hcaller, haction]
    exact hconcerns
  · rw [heffects]
    exact htold
  · rw [hafter, hout]
    exact hlike

/-- What the end of a release tells is a number and a gauge. -/
theorem told_end (r : Registry) (count : Nat) : unnumbered (nextEntry r count []).effects = [] := by
  unfold nextEntry Release.drain Stretch.map
  dsimp only
  split
  · rfl
  · rfl

/-- A release goes on with the entry of the identity. -/
theorem next_mirrors {r r' : Registry} {n slot : SlotId} {rest rest' : List (String × SlotId)}
    (h : Shows i owned r r') (hn : Named owned n slot) (hrest : Rest i owned r rest rest')
    (count count' : Nat) :
    Mirrors i owned r
      (fun owned₁ => Outcome.Like i owned₁ (nextEntry r count ((i.key, slot) :: rest)).registry)
      (nextEntry r count ((i.key, slot) :: rest))
      (nextEntry r' count' ((i.key, n) :: rest')) := by
  obtain ⟨hclosing, hshows⟩ := h.beginClose hn
  have hwidens : Widens r owned (r.beginClose slot).2 owned :=
    Widens.of_size_eq (r.size_cells_beginClose slot)
  have hrest₁ := hrest.widen hwidens
  unfold nextEntry
  dsimp only
  generalize r.beginClose slot = closed, r'.beginClose n = closed' at *
  obtain ⟨closing, r₁⟩ := closed
  obtain ⟨closing', r₁'⟩ := closed'
  dsimp only at *
  rw [hclosing]
  cases closing with
  | nothing => exact ⟨owned, hwidens, hshows, .suspended (.release hrest₁ _ _), rfl⟩
  | closed m => exact ⟨owned, hwidens, hshows, .suspended (.release hrest₁ _ _), rfl⟩
  | shadow m => exact ⟨owned, hwidens, hshows, .suspended (.closing hn m hrest₁ _ _), rfl⟩

/-- A step that concerns the identity is a step of its own run too. -/
theorem step_own {t : Transition} (h : Alike i owned s s') (ht : s.step c a = some t)
    (hconcerns : t.concerns i = true) : Matched i owned s' t := by
  obtain ⟨hbefore, hcaller, haction, st, htakes, hout, heffects, hafter⟩ := step_spec ht
  rw [Transition.concerns, hbefore, hcaller, haction] at hconcerns
  have hconcerns' := (h.callers c).concerns hconcerns
  have hmatched {st' : Stretch Outcome} (hst' : Takes s' c a st') (hmirrors : Mirrors i owned
      s.registry (fun owned₁ => Outcome.Like i owned₁ st.registry) st st') :
      Matched i owned s' t :=
    h.matched hcaller haction hout heffects hafter hconcerns' hst' hmirrors
  have hc := h.callers c
  cases htakes with
  | fetch q idle =>
    rw [idle] at hc hconcerns
    have hq : q.identity = i := of_decide_eq_true hconcerns
    subst hq
    exact hmatched (.fetch q hc.of_idle)
      ((Fetch.start_mirrors h.shows c s.spans s'.spans).map (like_ofFetch rfl))
  | lookup j idle =>
    rw [idle] at hc hconcerns
    have hj : j = i := of_decide_eq_true hconcerns
    subst hj
    exact hmatched (.lookup j hc.of_idle)
      ⟨owned, Widens.refl _ _, h.shows, .looked h.shows.lookup_rel, rfl⟩
  | invalidate j idle =>
    rw [idle] at hc hconcerns
    have hj : j = i := of_decide_eq_true hconcerns
    subst hj
    exact hmatched (.invalidate j hc.of_idle)
      ((Invalidate.start_mirrors h.shows).map like_ofInvalidate)
  | release idle =>
    rw [idle] at hc
    have hrest := (rest_of_shows h.shows).widen
      (Widens.of_size_eq (b := { s.registry with slots := .empty }) rfl)
    exact hmatched (.release hc.of_idle)
      ⟨owned, Widens.of_size_eq rfl, h.shows.drained, .suspended (.release hrest 0 0), rfl⟩
  | @resume q slot here =>
    rw [here] at hc hconcerns
    have hq : q.identity = i := of_decide_eq_true hconcerns
    subst hq
    obtain ⟨phase', here', hphase⟩ := hc.of_fetch_own rfl
    cases hphase with
    | waiting hn =>
      exact hmatched (.resume here')
        ((Fetch.resume_mirrors h.shows c s.spans s'.spans hn).map (like_ofFetch rfl))
  | @built q slot span p here =>
    rw [here] at hc hconcerns
    have hq : q.identity = i := of_decide_eq_true hconcerns
    subst hq
    obtain ⟨phase', here', hphase⟩ := hc.of_fetch_own rfl
    cases hphase with
    | building hn _ span' =>
      exact hmatched (.built p here')
        ((Fetch.built_mirrors h.shows c s.spans s'.spans hn span span' p).map (like_ofFetch rfl))
  | @closed q slot m failure here =>
    rw [here] at hc hconcerns
    have hq : q.identity = i := of_decide_eq_true hconcerns
    subst hq
    obtain ⟨phase', here', hphase⟩ := hc.of_fetch_own rfl
    cases hphase with
    | closing hn _ =>
      exact hmatched (.closed failure here')
        ((Fetch.closed_mirrors h.shows c s.spans s'.spans m failure).map (like_ofFetch rfl))
  | @abandon q phase here =>
    rw [here] at hc hconcerns
    have hq : q.identity = i := of_decide_eq_true hconcerns
    obtain ⟨phase', here', hphase⟩ := hc.of_fetch_own hq
    obtain ⟨owned₁, hwidens, hshows, -, htold⟩ := Fetch.abandon_mirrors h.shows c hphase
    exact hmatched (.abandon here')
      ⟨owned₁, hwidens, hshows, .abandoned (.fetch hq (hphase.mono hwidens.longer)), htold⟩
  | @invalidated j m failure here =>
    rw [here] at hc hconcerns
    have hj : j = i := of_decide_eq_true hconcerns
    subst hj
    exact hmatched (.invalidated failure hc.of_invalidation_own)
      ((Invalidate.closed_mirrors h.shows m failure).map like_ofInvalidate)
  | @abandonInvalidation j m here =>
    rw [here] at hc hconcerns
    have hj : j = i := of_decide_eq_true hconcerns
    subst hj
    exact hmatched (.abandonInvalidation hc.of_invalidation_own)
      ⟨owned, Widens.refl _ _, h.shows, .abandoned (.invalidation m), rfl⟩
  | @next rest count here =>
    rw [here] at hc hconcerns
    obtain ⟨rest', count', here', hrest⟩ := hc.of_release
    cases hrest with
    | nil =>
      have htold := (told_end s'.registry count').trans (told_end s.registry count).symm
      exact hmatched (.next here')
        ⟨owned, Widens.refl _ _, h.shows, .released count count', htold⟩
    | own hn hrest => exact hmatched (.next here') (next_mirrors h.shows hn hrest count count')
    | other hne => exact absurd (of_decide_eq_true hconcerns) hne
  | @released e m rest count failure here =>
    rw [here] at hc hconcerns
    obtain ⟨n, rest', count', here', -, hrest⟩ :=
      hc.of_closing_own (of_decide_eq_true hconcerns)
    exact hmatched (.released failure here')
      ⟨owned, Widens.refl _ _, h.shows, .suspended (.release hrest count count'), rfl⟩
  | @abandonRelease rest count here =>
    rw [here] at hc
    obtain ⟨rest', count', here', hrest⟩ := hc.of_release
    exact hmatched (.abandonRelease here')
      ⟨owned, Widens.refl _ _, h.shows, .abandoned (.release hrest count count'), rfl⟩
  | @abandonClosing e m rest count here =>
    rw [here] at hc
    by_cases hkey : e.1 = i.key
    · obtain ⟨n, rest', count', here', -, -⟩ := hc.of_closing_own hkey
      rw [here'] at hc
      exact hmatched (.abandonClosing here') ⟨owned, Widens.refl _ _, h.shows, .abandoned hc, rfl⟩
    · obtain ⟨rest', count', here', hrest⟩ := hc.of_closing_other hkey
      exact hmatched (.abandonRelease here')
        ⟨owned, Widens.refl _ _, h.shows, .abandoned (.closingOther hkey m hrest _ _), rfl⟩

/-! ## Steps for other identities -/

/-- A fetch for another identity goes on. -/
theorem fetch_other {q : Request} {st : Stretch FetchOutcome} (h : Alike i owned s s')
    (hidle : s'.underway c = none) (hq : q.identity ≠ i)
    (hbypasses : Bypasses i owned s.registry s'.registry st.registry ∧
      st.outcome.Apart st.registry owned) :
    Alike i owned (s.afterStretch c a (st.map (.ofFetch q))) s' :=
  h.update hbypasses.1.shows hbypasses.1.widens rfl
    (by rw [← hidle, Function.update_eq_self]) (stands_ofFetch hq hbypasses.2)

/-- A step that does not concern the identity is none in its own run. -/
theorem step_other {t : Transition} (h : Alike i owned s s') (ht : s.step c a = some t)
    (hconcerns : t.concerns i = false) : Alike i owned t.after s' := by
  obtain ⟨hbefore, hcaller, haction, st, htakes, -, -, hafter⟩ := step_spec ht
  have hbypassed (hbypasses : Bypasses i owned s.registry s'.registry st.registry)
      (hstands : Stands i owned st.registry st.outcome.underway? (s'.underway c)) :
      Alike i owned (s.afterStretch c a st) s' :=
    h.update hbypasses.shows hbypasses.widens rfl (Function.update_eq_self c s'.underway).symm
      hstands
  have hsame := Bypasses.refl h.shows
  have hc := h.callers c
  rw [Transition.concerns, hbefore, hcaller, haction] at hconcerns
  rw [hafter]
  cases htakes with
  | fetch q idle =>
    rw [idle] at hc hconcerns
    have hq : q.identity ≠ i := of_decide_eq_false hconcerns
    exact h.fetch_other hc.of_idle hq (Fetch.start_bypasses h.shows (key_ne hq) c s.spans)
  | lookup j idle =>
    rw [idle] at hc
    exact hbypassed hsame hc
  | invalidate j idle =>
    rw [idle] at hc hconcerns
    have hj : j ≠ i := of_decide_eq_false hconcerns
    apply hbypassed (Invalidate.start_bypasses h.shows (key_ne hj))
    rw [hc.of_idle]
    exact stands_ofInvalidate hj _
  | release idle =>
    rw [idle] at hconcerns
    cases hconcerns
  | @resume q slot here =>
    rw [here] at hc hconcerns
    have hq : q.identity ≠ i := of_decide_eq_false hconcerns
    obtain ⟨hidle, happart⟩ := hc.of_fetch_other hq
    exact h.fetch_other hidle hq
      (Fetch.resume_bypasses h.shows (key_ne hq) c s.spans (happart rfl))
  | @built q slot span p here =>
    rw [here] at hc hconcerns
    have hq : q.identity ≠ i := of_decide_eq_false hconcerns
    obtain ⟨hidle, happart⟩ := hc.of_fetch_other hq
    exact h.fetch_other hidle hq
      (Fetch.built_bypasses h.shows (key_ne hq) c s.spans (happart rfl).2 span p)
  | @closed q slot m failure here =>
    rw [here] at hc hconcerns
    have hq : q.identity ≠ i := of_decide_eq_false hconcerns
    exact h.fetch_other (hc.of_fetch_other hq).1 hq
      (Fetch.attempt_bypasses h.shows (key_ne hq) c s.spans)
  | @abandon q phase here =>
    rw [here] at hc hconcerns
    have hq : q.identity ≠ i := of_decide_eq_false hconcerns
    obtain ⟨hidle, happart⟩ := hc.of_fetch_other hq
    apply hbypassed (Fetch.abandon_bypasses h.shows c fun hslot => (happart hslot).2)
    rw [hidle]
    exact .idle
  | @invalidated j m failure here =>
    rw [here] at hc hconcerns
    have hj : j ≠ i := of_decide_eq_false hconcerns
    apply hbypassed hsame
    rw [hc.of_invalidation_other hj]
    exact .idle
  | @abandonInvalidation j m here =>
    rw [here] at hc hconcerns
    have hj : j ≠ i := of_decide_eq_false hconcerns
    apply hbypassed hsame
    rw [hc.of_invalidation_other hj]
    exact .idle
  | @next rest count here =>
    rw [here] at hc hconcerns
    cases rest with
    | nil => cases hconcerns
    | cons e rest =>
      have hkey : e.1 ≠ i.key := of_decide_eq_false hconcerns
      obtain ⟨hreg, hout⟩ := nextEntry_cons s.registry count e rest
      obtain ⟨rest', count', here', hrest⟩ := hc.of_release
      cases hrest with
      | own => exact absurd rfl hkey
      | other _ hslot hrest =>
        have hbypasses := hsame.beginClose hslot.2
        rw [← hreg] at hbypasses
        apply hbypassed hbypasses
        rw [hout, here']
        split
        · exact .release (hrest.widen hbypasses.widens) _ _
        · exact .closingOther hkey _ (hrest.widen hbypasses.widens) _ _
  | @released e m rest count failure here =>
    rw [here] at hc hconcerns
    obtain ⟨rest', count', here', hrest⟩ := hc.of_closing_other (of_decide_eq_false hconcerns)
    apply hbypassed hsame
    rw [here']
    exact .release hrest _ _
  | abandonRelease here =>
    rw [here] at hconcerns
    simp [Interleaved.concerns] at hconcerns
  | abandonClosing here =>
    rw [here] at hconcerns
    cases hconcerns

end Alike

end Interleaved

end ShadowTraffic
