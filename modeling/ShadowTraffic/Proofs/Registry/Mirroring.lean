import ShadowTraffic.Proofs.Registry.Projection

/-! # Stretches seen from one identity

A stretch for the identity, taken in a registry and in one that shows it, reads the same and leaves
registries of which one shows the other; what it ends with and what it tells are the same up to the
numbers of slots and spans. A stretch for another identity leaves what is shown, and stays away from
its slots.
-/

namespace ShadowTraffic

/-- The same point of a fetch, at slots that correspond. -/
inductive FetchPhase.Like (owned : List SlotId) : FetchPhase → FetchPhase → Prop
  | waiting {n slot : SlotId} (hn : Named owned n slot) : Like owned (.waiting slot) (.waiting n)
  | building {n slot : SlotId} (hn : Named owned n slot) (span span' : SpanId) :
      Like owned (.building slot span) (.building n span')
  | closing {n slot : SlotId} (hn : Named owned n slot) (m : Mediator) :
      Like owned (.closing slot m) (.closing n m)

inductive FetchOutcome.Like (owned : List SlotId) : FetchOutcome → FetchOutcome → Prop
  | pending {phase phase' : FetchPhase} (h : phase.Like owned phase') :
      Like owned (.pending phase) (.pending phase')
  | got {n slot : SlotId} (hn : Named owned n slot) : Like owned (.got slot) (.got n)

/-- Without numbers: spans are numbered apart, and the gauge and the end of a release count the
mediators of all identities. -/
def Effect.unnumbered? : Effect → Option Effect
  | .opened _ span => some (.opened 0 span)
  | .recorded _ record => some (.recorded 0 record)
  | .activeSet _ => none
  | .noticed (.registryReleased _) => none
  | e => some e

def unnumbered (effects : List Effect) : List Effect :=
  effects.filterMap Effect.unnumbered?

theorem unnumbered_append (first second : List Effect) :
    unnumbered (first ++ second) = unnumbered first ++ unnumbered second :=
  List.filterMap_append

theorem unnumbered_after {α : Type} (st : Stretch α) (effects : List Effect) :
    unnumbered (st.after effects).effects = unnumbered effects ++ unnumbered st.effects :=
  unnumbered_append effects st.effects

/-- Two stretches leave registries of which one shows the other, and end in the same way, after the
same has been told. -/
def Mirrors {α : Type} (i : Identity) (owned : List SlotId) (r : Registry)
    (Like : List SlotId → α → α → Prop) (st st' : Stretch α) : Prop :=
  ∃ owned₁, Widens r owned st.registry owned₁ ∧ Shows i owned₁ st.registry st'.registry ∧
    Like owned₁ st.outcome st'.outcome ∧ unnumbered st'.effects = unnumbered st.effects

theorem Mirrors.after {α : Type} {i : Identity} {owned : List SlotId} {r : Registry}
    {Like : List SlotId → α → α → Prop} {st st' : Stretch α} (h : Mirrors i owned r Like st st')
    {effects effects' : List Effect} (hsame : unnumbered effects' = unnumbered effects) :
    Mirrors i owned r Like (st.after effects) (st'.after effects') := by
  obtain ⟨owned₁, hwidens, hshows, hlike, htold⟩ := h
  refine ⟨owned₁, hwidens, hshows, hlike, ?_⟩
  rw [unnumbered_after, unnumbered_after, hsame, htold]

/-- What is shown stays, and the slots of others stay apart. -/
structure Bypasses (i : Identity) (owned : List SlotId) (r r' r₁ : Registry) : Prop where
  shows : Shows i owned r₁ r'
  widens : Widens r owned r₁ owned

/-- The fetch waits or builds at a slot of another identity. -/
def FetchOutcome.Apart (r : Registry) (owned : List SlotId) (o : FetchOutcome) : Prop :=
  ∀ {phase slot}, o = .pending phase → phase.slot? = some slot → ShadowTraffic.Apart r owned slot

namespace FetchOutcome

variable {r : Registry} {owned : List SlotId} {slot : SlotId}

theorem apart_got : (got slot).Apart r owned := by
  intro phase k hphase
  cases hphase

theorem apart_at {phase : FetchPhase} (hphase : phase.slot? = some slot)
    (h : ShadowTraffic.Apart r owned slot) : (pending phase).Apart r owned := by
  intro phase' k heq hk
  cases heq
  rw [hphase] at hk
  cases hk
  exact h

theorem apart_closing {m : Mediator} : (pending (.closing slot m)).Apart r owned := by
  intro phase k hphase hk
  cases hphase
  cases hk

end FetchOutcome

namespace Bypasses

variable {i : Identity} {owned : List SlotId} {r r' r₁ : Registry} {slot : SlotId}

theorem refl (h : Shows i owned r r') : Bypasses i owned r r' r :=
  ⟨h, Widens.refl r owned⟩

theorem trans {r₂ : Registry} (h : Bypasses i owned r r' r₁) (h' : Bypasses i owned r₁ r' r₂) :
    Bypasses i owned r r' r₂ :=
  ⟨h'.shows, h.widens.trans h'.widens⟩

theorem setCell (h : Bypasses i owned r r' r₁) (hslot : slot ∉ owned) (c : Cell) :
    Bypasses i owned r r' (r₁.setCell slot c) :=
  ⟨h.shows.setCell_apart hslot c, h.widens.trans (Widens.of_size_eq (by simp))⟩

theorem beginClose (h : Bypasses i owned r r' r₁) (hslot : slot ∉ owned) :
    Bypasses i owned r r' (r₁.beginClose slot).2 :=
  ⟨h.shows.beginClose_apart hslot, h.widens.trans (Widens.of_size_eq (by simp))⟩

end Bypasses

namespace Fetch

variable {i : Identity} {owned : List SlotId} {r r' : Registry} {n slot : SlotId} {q : Request}

/-! ## For the identity -/

section

variable (h : Shows q.identity owned r r') (c : CallerId) (fresh fresh' : SpanId)
include h

theorem drift_eq (hn : Named owned n slot) (config : Descriptor) :
    drift r' n config = drift r slot config := by
  rw [drift, drift, h.mediator?_eq hn]

theorem attempt_mirrors : Mirrors q.identity owned r FetchOutcome.Like
    (attempt r c q fresh) (attempt r' c q fresh') := by
  obtain ⟨owned₁, hwidens, hshows, hn⟩ := h.slotFor
  unfold attempt
  generalize r.slotFor q.identity = opened, r'.slotFor q.identity = opened' at *
  obtain ⟨slot, r₁⟩ := opened
  obtain ⟨n, r₁'⟩ := opened'
  dsimp only at *
  have hset (c : Cell) : Widens r owned (r₁.setCell slot c) owned₁ :=
    hwidens.trans (Widens.of_size_eq (by simp))
  rw [hshows.cell hn]
  cases r₁.cell slot with
  | built m =>
    dsimp only
    rw [drift_eq hshows hn]
    exact ⟨owned₁, hwidens, hshows, .got hn, rfl⟩
  | vacant =>
    exact ⟨owned₁, hset _, hshows.setCell hn _, .pending (.building hn fresh fresh'), rfl⟩
  | building holder queue =>
    exact ⟨owned₁, hset _, hshows.setCell hn _, .pending (.waiting hn), rfl⟩

theorem start_mirrors : Mirrors q.identity owned r FetchOutcome.Like
    (start r c q fresh) (start r' c q fresh') := by
  have hattempt := attempt_mirrors h c fresh fresh'
  have hlookup := h.lookup_rel
  unfold start
  generalize r'.lookup q.identity = o', r.lookup q.identity = o at hlookup
  cases hlookup with
  | some hk =>
    dsimp only
    rw [drift_eq h hk]
    exact ⟨owned, Widens.refl r owned, h, .got hk, rfl⟩
  | none => exact hattempt

theorem settle_mirrors (hn : Named owned n slot) (constructed : Bool) :
    Mirrors q.identity owned r FetchOutcome.Like
      (settle r c q fresh slot constructed) (settle r' c q fresh' n constructed) := by
  obtain ⟨hclosing, hshows⟩ := h.beginClose hn
  have hwidens : Widens r owned (r.beginClose slot).2 owned :=
    Widens.of_size_eq (r.size_cells_beginClose slot)
  unfold settle
  rw [h.owns_eq hn]
  split
  · refine ⟨owned, Widens.refl r owned, h, .got hn, ?_⟩
    rw [unnumbered_append, unnumbered_append, drift_eq h hn]
    cases constructed <;> rfl
  · generalize r.beginClose slot = closed, r'.beginClose n = closed' at *
    obtain ⟨closing, r₁⟩ := closed
    obtain ⟨closing', r₁'⟩ := closed'
    dsimp only at *
    rw [hclosing]
    cases closing with
    | nothing =>
      obtain ⟨owned₁, hwidens₁, hmirrors⟩ := attempt_mirrors hshows c fresh fresh'
      exact ⟨owned₁, hwidens.trans hwidens₁, hmirrors⟩
    | closed m =>
      apply Mirrors.after _ rfl
      obtain ⟨owned₁, hwidens₁, hmirrors⟩ := attempt_mirrors hshows c fresh fresh'
      exact ⟨owned₁, hwidens.trans hwidens₁, hmirrors⟩
    | shadow m => exact ⟨owned, hwidens, hshows, .pending (.closing hn m), rfl⟩

theorem resume_mirrors (hn : Named owned n slot) : Mirrors q.identity owned r FetchOutcome.Like
    (resume r c q fresh slot) (resume r' c q fresh' n) := by
  have hsettle := settle_mirrors h c fresh fresh' hn false
  unfold resume
  rw [h.cell hn]
  cases r.cell slot with
  | built m => exact hsettle
  | vacant =>
    exact ⟨owned, Widens.of_size_eq (by simp [startBuild]), h.setCell hn _,
      .pending (.building hn fresh fresh'), rfl⟩
  | building holder queue =>
    dsimp only
    split
    · exact ⟨owned, Widens.refl r owned, h, .pending (.building hn fresh fresh'), rfl⟩
    · exact ⟨owned, Widens.refl r owned, h, .pending (.waiting hn), rfl⟩

theorem built_mirrors (hn : Named owned n slot) (span span' : SpanId) (p : Provision) :
    Mirrors q.identity owned r FetchOutcome.Like
      (built r c q fresh slot span p) (built r' c q fresh' n span' p) := by
  have hwidens : Widens r owned (r.setCell slot (.built (q.filling p))) owned :=
    Widens.of_size_eq (by simp)
  have hsettle : Mirrors q.identity owned r FetchOutcome.Like
      (settle (r.setCell slot (.built (q.filling p))) c q fresh slot true)
      (settle (r'.setCell n (.built (q.filling p))) c q fresh' n true) := by
    obtain ⟨owned₁, hwidens₁, hmirrors⟩ :=
      settle_mirrors (h.setCell hn (.built (q.filling p))) c fresh fresh' hn true
    exact ⟨owned₁, hwidens.trans hwidens₁, hmirrors⟩
  exact hsettle.after rfl

theorem closed_mirrors (m : Mediator) (failure : Option ProvisionError) :
    Mirrors q.identity owned r FetchOutcome.Like
      (closed r c q fresh m failure) (closed r' c q fresh' m failure) :=
  (attempt_mirrors h c fresh fresh').after rfl

end

theorem passOn_mirrors (h : Shows i owned r r') (hn : Named owned n slot) (queue : List CallerId) :
    Mirrors i owned r (fun _ o o' => o = o') (passOn r slot queue) (passOn r' n queue) := by
  cases queue with
  | nil => exact ⟨owned, Widens.of_size_eq (by simp [passOn]), h.setCell hn _, rfl, rfl⟩
  | cons next rest => exact ⟨owned, Widens.of_size_eq (by simp [passOn]), h.setCell hn _, rfl, rfl⟩

theorem abandon_mirrors (h : Shows i owned r r') (c : CallerId) {phase phase' : FetchPhase}
    (hphase : phase.Like owned phase') :
    Mirrors i owned r (fun _ o o' => o = o') (abandon r c phase) (abandon r' c phase') := by
  cases hphase with
  | closing hn m => exact ⟨owned, Widens.refl r owned, h, rfl, rfl⟩
  | building hn span span' =>
    unfold abandon
    dsimp only
    rw [h.cell hn]
    exact (passOn_mirrors h hn _).after rfl
  | waiting hn =>
    unfold abandon
    dsimp only
    rw [h.cell hn]
    split
    · split
      · exact passOn_mirrors h hn _
      · exact ⟨owned, Widens.of_size_eq (by simp), h.setCell hn _, rfl, rfl⟩
    · exact ⟨owned, Widens.refl r owned, h, rfl, rfl⟩

/-! ## For other identities -/

section

variable (h : Shows i owned r r') (hq : q.identity.key ≠ i.key) (c : CallerId) (fresh : SpanId)
include h hq

theorem attempt_bypasses : Bypasses i owned r r' (attempt r c q fresh).registry ∧
    (attempt r c q fresh).outcome.Apart (attempt r c q fresh).registry owned := by
  obtain ⟨hshows, hwidens, happart⟩ := h.slotFor_other hq
  have hopen : Bypasses i owned r r' (r.slotFor q.identity).2 := ⟨hshows, hwidens⟩
  have hset (cell : Cell) : Apart ((r.slotFor q.identity).2.setCell (r.slotFor q.identity).1 cell)
      owned (r.slotFor q.identity).1 := (Widens.of_size_eq (by simp)).apart happart
  rcases attempt_cases r c q fresh with ⟨-, hreg, hout⟩ | ⟨-, hreg, hout⟩ | ⟨_, _, -, hreg, hout⟩
  · rw [hreg, hout]
    exact ⟨hopen, FetchOutcome.apart_got⟩
  · rw [hreg, hout]
    exact ⟨hopen.setCell happart.2 _, FetchOutcome.apart_at rfl (hset _)⟩
  · rw [hreg, hout]
    exact ⟨hopen.setCell happart.2 _, FetchOutcome.apart_at rfl (hset _)⟩

theorem start_bypasses : Bypasses i owned r r' (start r c q fresh).registry ∧
    (start r c q fresh).outcome.Apart (start r c q fresh).registry owned := by
  rcases start_cases r c q fresh with ⟨slot, -, hreg, hout⟩ | ⟨-, hattempt⟩
  · rw [hreg, hout]
    exact ⟨Bypasses.refl h, FetchOutcome.apart_got⟩
  · rw [hattempt]
    exact attempt_bypasses h hq c fresh

theorem settle_bypasses (hslot : slot ∉ owned) (constructed : Bool) :
    Bypasses i owned r r' (settle r c q fresh slot constructed).registry ∧
      (settle r c q fresh slot constructed).outcome.Apart
        (settle r c q fresh slot constructed).registry owned := by
  have hclose := (Bypasses.refl h).beginClose hslot
  rcases settle_cases r c q fresh slot constructed with
    ⟨-, hreg, hout⟩ | ⟨-, hreg, hout⟩ | ⟨-, hreg, m, hout⟩
  · rw [hreg, hout]
    exact ⟨Bypasses.refl h, FetchOutcome.apart_got⟩
  · rw [hreg, hout]
    obtain ⟨hattempt, happart⟩ := attempt_bypasses hclose.shows hq c fresh
    exact ⟨hclose.trans hattempt, happart⟩
  · rw [hreg, hout]
    exact ⟨hclose, FetchOutcome.apart_closing⟩

theorem resume_bypasses (hslot : Apart r owned slot) :
    Bypasses i owned r r' (resume r c q fresh slot).registry ∧
      (resume r c q fresh slot).outcome.Apart (resume r c q fresh slot).registry owned := by
  have hset (cell : Cell) : Apart (r.setCell slot cell) owned slot :=
    (Widens.of_size_eq (by simp)).apart hslot
  rcases resume_cases r c q fresh slot with ⟨-, hsettle⟩ | ⟨_, -, hreg, hout⟩ |
    ⟨_, _, -, -, hreg, hout⟩ | ⟨-, hreg, hout⟩
  · rw [hsettle]
    exact settle_bypasses h hq c fresh hslot.2 false
  · rw [hreg, hout]
    exact ⟨Bypasses.refl h, FetchOutcome.apart_at rfl hslot⟩
  · rw [hreg, hout]
    exact ⟨Bypasses.refl h, FetchOutcome.apart_at rfl hslot⟩
  · rw [hreg, hout]
    exact ⟨(Bypasses.refl h).setCell hslot.2 _, FetchOutcome.apart_at rfl (hset _)⟩

theorem built_bypasses (hslot : slot ∉ owned) (span : SpanId) (p : Provision) :
    Bypasses i owned r r' (built r c q fresh slot span p).registry ∧
      (built r c q fresh slot span p).outcome.Apart
        (built r c q fresh slot span p).registry owned := by
  have hfill := (Bypasses.refl h).setCell hslot (.built (q.filling p))
  obtain ⟨hsettle, happart⟩ := settle_bypasses hfill.shows hq c fresh hslot true
  exact ⟨hfill.trans hsettle, happart⟩

end

theorem abandon_bypasses (h : Shows i owned r r') (c : CallerId) {phase : FetchPhase}
    (happart : ∀ {slot}, phase.slot? = some slot → slot ∉ owned) :
    Bypasses i owned r r' (abandon r c phase).registry := by
  rcases abandon_cases r c phase with hreg | ⟨slot, cell, hslot, hreg, -⟩
  · rw [hreg]
    exact Bypasses.refl h
  · rw [hreg]
    exact (Bypasses.refl h).setCell (happart hslot) cell

end Fetch

/-! ## Invalidations -/

namespace Invalidate

variable {i j : Identity} {owned : List SlotId} {r r' : Registry}

theorem start_mirrors (h : Shows i owned r r') :
    Mirrors i owned r (fun _ o o' => o = o') (start r i) (start r' i) := by
  have hremove := h.remove
  have hentry := h.entry
  unfold start
  generalize r'.slot? i = o', r.slot? i = o at hentry
  cases hentry with
  | none => exact ⟨owned, Widens.refl r owned, h, rfl, rfl⟩
  | @some n slot hn =>
    obtain ⟨hclosing, hshows⟩ := hremove.beginClose hn
    have hwidens : Widens r owned ((r.remove i).beginClose slot).2 owned :=
      Widens.of_size_eq (Registry.size_cells_beginClose (r.remove i) slot)
    dsimp only
    generalize (r.remove i).beginClose slot = closed, (r'.remove i).beginClose n = closed' at *
    obtain ⟨closing, r₁⟩ := closed
    obtain ⟨closing', r₁'⟩ := closed'
    dsimp only at *
    have hfinish : Mirrors i owned r (fun _ o o' => o = o') (finish r₁ i) (finish r₁' i) :=
      ⟨owned, hwidens, hshows, rfl, rfl⟩
    rw [hclosing]
    cases closing with
    | nothing => exact hfinish
    | closed m => exact hfinish.after rfl
    | shadow m => exact ⟨owned, hwidens, hshows, rfl, rfl⟩

theorem closed_mirrors (h : Shows i owned r r') (m : Mediator) (failure : Option ProvisionError) :
    Mirrors i owned r (fun _ o o' => o = o') (closed r i m failure) (closed r' i m failure) := by
  have hfinish : Mirrors i owned r (fun _ o o' => o = o') (finish r i) (finish r' i) :=
    ⟨owned, Widens.refl r owned, h, rfl, rfl⟩
  exact hfinish.after rfl

theorem start_bypasses (h : Shows i owned r r') (hj : j.key ≠ i.key) :
    Bypasses i owned r r' (start r j).registry := by
  rcases start_cases r j with ⟨-, hreg, -⟩ | ⟨slot, hslot, hreg, -⟩
  · rw [hreg]
    exact Bypasses.refl h
  · have hremove : Bypasses i owned r r' (r.remove j) :=
      ⟨h.remove_other hj, Widens.of_size_eq rfl⟩
    rw [hreg]
    exact hremove.beginClose (h.others hj hslot).2

end Invalidate

end ShadowTraffic
