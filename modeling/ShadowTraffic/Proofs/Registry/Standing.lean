import ShadowTraffic.Proofs.Registry.Interleaved
import ShadowTraffic.Proofs.Registry.Mirroring

/-! # Callers seen from one identity

Where the callers of a registry stand, as far as one identity goes. Of a release only the entries of
the identity are seen, and a caller that asks for another identity is seen as idle. The map of a
registry that knows one identity is what a release sees of the whole map.
-/

namespace ShadowTraffic

namespace Interleaved

/-- The entries of the identity among those that a release has to do. -/
inductive Rest (i : Identity) (owned : List SlotId) (r : Registry) :
    List (String × SlotId) → List (String × SlotId) → Prop
  | nil : Rest i owned r [] []
  | own {n slot : SlotId} {rest rest' : List (String × SlotId)} (hn : Named owned n slot)
      (h : Rest i owned r rest rest') :
      Rest i owned r ((i.key, slot) :: rest) ((i.key, n) :: rest')
  | other {e : String × SlotId} {rest rest' : List (String × SlotId)} (hkey : e.1 ≠ i.key)
      (hslot : Apart r owned e.2) (h : Rest i owned r rest rest') :
      Rest i owned r (e :: rest) rest'

/-- A caller stands at the same point in the run of the identity alone; where it is engaged for
another identity, it is idle there, or in the middle of no entry of its release. -/
inductive Stands (i : Identity) (owned : List SlotId) (r : Registry) :
    Option Underway → Option Underway → Prop
  | idle : Stands i owned r none none
  | fetch {q : Request} {phase phase' : FetchPhase} (hq : q.identity = i)
      (h : phase.Like owned phase') :
      Stands i owned r (some (.fetch q phase)) (some (.fetch q phase'))
  | fetchOther {q : Request} {phase : FetchPhase} (hq : q.identity ≠ i)
      (h : ∀ {slot}, phase.slot? = some slot → Apart r owned slot) :
      Stands i owned r (some (.fetch q phase)) none
  | invalidation (m : Mediator) :
      Stands i owned r (some (.invalidation i m)) (some (.invalidation i m))
  | invalidationOther {j : Identity} (hj : j ≠ i) (m : Mediator) :
      Stands i owned r (some (.invalidation j m)) none
  | release {rest rest' : List (String × SlotId)} (h : Rest i owned r rest rest')
      (count count' : Nat) :
      Stands i owned r (some (.release rest count)) (some (.release rest' count'))
  | closing {n slot : SlotId} {rest rest' : List (String × SlotId)} (hn : Named owned n slot)
      (m : Mediator) (h : Rest i owned r rest rest') (count count' : Nat) :
      Stands i owned r (some (.closing (i.key, slot) m rest count))
        (some (.closing (i.key, n) m rest' count'))
  | closingOther {e : String × SlotId} {rest rest' : List (String × SlotId)} (hkey : e.1 ≠ i.key)
      (m : Mediator) (h : Rest i owned r rest rest') (count count' : Nat) :
      Stands i owned r (some (.closing e m rest count)) (some (.release rest' count'))

/-- Two steps end in the same way for the identity, up to the numbers of slots. -/
inductive Outcome.Like (i : Identity) (owned : List SlotId) (r : Registry) :
    Outcome → Outcome → Prop
  | suspended {o o' : Underway} (h : Stands i owned r (some o) (some o')) :
      Like i owned r (.suspended o) (.suspended o')
  | fetched {q : Request} {n slot : SlotId} (hq : q.identity = i) (hn : Named owned n slot) :
      Like i owned r (.returned (.fetched q slot)) (.returned (.fetched q n))
  | looked {found found' : Option SlotId} (h : Option.Rel (Named owned) found' found) :
      Like i owned r (.returned (.looked i found)) (.returned (.looked i found'))
  | invalidated (found : Bool) :
      Like i owned r (.returned (.invalidated i found)) (.returned (.invalidated i found))
  | released (count count' : Nat) :
      Like i owned r (.returned (.released count)) (.returned (.released count'))
  | abandoned {o o' : Underway} (h : Stands i owned r (some o) (some o')) :
      Like i owned r (.abandoned o) (.abandoned o')

variable {i : Identity} {owned owned₁ : List SlotId} {r r' r₁ : Registry}

/-! ## While more slots are opened -/

theorem Rest.widen {rest rest' : List (String × SlotId)} (h : Rest i owned r rest rest')
    (hwidens : Widens r owned r₁ owned₁) : Rest i owned₁ r₁ rest rest' := by
  induction h with
  | nil => exact .nil
  | own hn _ ih => exact .own (hn.mono hwidens.longer) ih
  | other hkey hslot _ ih => exact .other hkey (hwidens.apart hslot) ih

end Interleaved

theorem FetchPhase.Like.mono {phase phase' : FetchPhase} {owned owned₁ : List SlotId}
    (h : phase.Like owned phase') (hmore : owned <+: owned₁) : phase.Like owned₁ phase' := by
  cases h with
  | waiting hn => exact .waiting (hn.mono hmore)
  | building hn span span' => exact .building (hn.mono hmore) span span'
  | closing hn m => exact .closing (hn.mono hmore) m

namespace Interleaved

variable {i : Identity} {owned owned₁ : List SlotId} {r r' r₁ : Registry}

theorem Stands.widen {o o' : Option Underway} (h : Stands i owned r o o')
    (hwidens : Widens r owned r₁ owned₁) : Stands i owned₁ r₁ o o' := by
  cases h with
  | idle => exact .idle
  | fetch hq hphase => exact .fetch hq (hphase.mono hwidens.longer)
  | fetchOther hq happart => exact .fetchOther hq fun hslot => hwidens.apart (happart hslot)
  | invalidation m => exact .invalidation m
  | invalidationOther hj m => exact .invalidationOther hj m
  | release hrest count count' => exact .release (hrest.widen hwidens) count count'
  | closing hn m hrest count count' =>
    exact .closing (hn.mono hwidens.longer) m (hrest.widen hwidens) count count'
  | closingOther hkey m hrest count count' =>
    exact .closingOther hkey m (hrest.widen hwidens) count count'

/-! ## Where a caller stands in the run of the identity alone -/

theorem Stands.of_idle {o : Option Underway} (h : Stands i owned r none o) : o = none := by
  cases h with
  | idle => rfl

theorem Stands.of_fetch_own {q : Request} {phase : FetchPhase} {o : Option Underway}
    (h : Stands i owned r (some (.fetch q phase)) o) (hq : q.identity = i) :
    ∃ phase', o = some (.fetch q phase') ∧ phase.Like owned phase' := by
  cases h with
  | fetch _ hphase => exact ⟨_, rfl, hphase⟩
  | fetchOther hne => exact absurd hq hne

theorem Stands.of_fetch_other {q : Request} {phase : FetchPhase} {o : Option Underway}
    (h : Stands i owned r (some (.fetch q phase)) o) (hq : q.identity ≠ i) :
    o = none ∧ ∀ {slot}, phase.slot? = some slot → Apart r owned slot := by
  cases h with
  | fetch heq => exact absurd heq hq
  | fetchOther _ happart => exact ⟨rfl, happart⟩

theorem Stands.of_invalidation_own {m : Mediator} {o : Option Underway}
    (h : Stands i owned r (some (.invalidation i m)) o) : o = some (.invalidation i m) := by
  cases h with
  | invalidation => rfl
  | invalidationOther hj => exact absurd rfl hj

theorem Stands.of_invalidation_other {j : Identity} {m : Mediator} {o : Option Underway}
    (h : Stands i owned r (some (.invalidation j m)) o) (hj : j ≠ i) : o = none := by
  cases h with
  | invalidation => exact absurd rfl hj
  | invalidationOther => rfl

theorem Stands.of_release {rest : List (String × SlotId)} {count : Nat} {o : Option Underway}
    (h : Stands i owned r (some (.release rest count)) o) :
    ∃ rest' count', o = some (.release rest' count') ∧ Rest i owned r rest rest' := by
  cases h with
  | release hrest _ count' => exact ⟨_, count', rfl, hrest⟩

theorem Stands.of_closing_own {e : String × SlotId} {m : Mediator}
    {rest : List (String × SlotId)} {count : Nat} {o : Option Underway}
    (h : Stands i owned r (some (.closing e m rest count)) o) (hkey : e.1 = i.key) :
    ∃ n rest' count', o = some (.closing (i.key, n) m rest' count') ∧ Named owned n e.2 ∧
      Rest i owned r rest rest' := by
  cases h with
  | closing hn _ hrest _ count' => exact ⟨_, _, count', rfl, hn, hrest⟩
  | closingOther hne => exact absurd hkey hne

theorem Stands.of_closing_other {e : String × SlotId} {m : Mediator}
    {rest : List (String × SlotId)} {count : Nat} {o : Option Underway}
    (h : Stands i owned r (some (.closing e m rest count)) o) (hkey : e.1 ≠ i.key) :
    ∃ rest' count', o = some (.release rest' count') ∧ Rest i owned r rest rest' := by
  cases h with
  | closing => exact absurd rfl hkey
  | closingOther _ _ hrest _ count' => exact ⟨_, count', rfl, hrest⟩

/-- A caller is engaged for another identity: it asks for a mediator of it, or invalidates it. -/
def elsewhere (i : Identity) : Option Underway → Bool
  | some (.fetch q _) => q.identity ≠ i
  | some (.invalidation j _) => j ≠ i
  | _ => false

theorem Stands.idle_of_free {o : Option Underway} (h : Stands i owned r o none)
    (hfree : elsewhere i o = false) : o = none := by
  cases h with
  | idle => rfl
  | fetchOther hq => exact absurd (of_decide_eq_false hfree) (not_not_intro hq)
  | invalidationOther hj => exact absurd (of_decide_eq_false hfree) (not_not_intro hj)

/-! ## How stretches end -/

theorem Outcome.Like.stands {o o' : Outcome} (h : o.Like i owned r o') :
    Stands i owned r o.underway? o'.underway? := by
  cases h with
  | suspended h => exact h
  | fetched hq hn => exact .idle
  | looked h => exact .idle
  | invalidated found => exact .idle
  | released count count' => exact .idle
  | abandoned h => exact .idle

theorem like_ofFetch {q : Request} {o o' : FetchOutcome} (hq : q.identity = i)
    (h : o.Like owned o') : (Outcome.ofFetch q o).Like i owned r (Outcome.ofFetch q o') := by
  cases h with
  | pending hphase => exact .suspended (.fetch hq hphase)
  | got hn => exact .fetched hq hn

theorem stands_ofFetch {q : Request} {o : FetchOutcome} (hq : q.identity ≠ i)
    (h : o.Apart r owned) : Stands i owned r (Outcome.ofFetch q o).underway? none := by
  cases o with
  | pending phase => exact .fetchOther hq fun hslot => h rfl hslot
  | got slot => exact .idle

theorem like_ofInvalidate {o o' : InvalidateOutcome} (h : o = o') :
    (Outcome.ofInvalidate i o).Like i owned r (Outcome.ofInvalidate i o') := by
  subst h
  cases o with
  | closing m => exact .suspended (.invalidation m)
  | done found => exact .invalidated found

theorem stands_ofInvalidate {j : Identity} (hj : j ≠ i) (o : InvalidateOutcome) :
    Stands i owned r (Outcome.ofInvalidate j o).underway? none := by
  cases o with
  | closing m => exact .invalidationOther hj m
  | done found => exact .idle

/-! ## The map of a release -/

/-- The map of a registry that knows one identity has at most its entry. -/
theorem entries_eq (h : Shows i owned r r') :
    r'.slots.entries = (r'.slot? i).toList.map fun n => (i.key, n) := by
  have hkeys : ∀ e ∈ r'.slots.entries, e.1 = i.key := by
    intro e he
    by_contra hne
    have hnone := h.only hne
    rw [Dictionary.get?_eq_some.mpr he] at hnone
    cases hnone
  have hslot : ∀ {n}, r'.slot? i = some n ↔ (i.key, n) ∈ r'.slots.entries := Dictionary.get?_eq_some
  have hordered := r'.slots.ordered
  cases hentries : r'.slots.entries with
  | nil =>
    cases hr : r'.slot? i with
    | none => rfl
    | some n =>
      have hmem := hslot.mp hr
      rw [hentries] at hmem
      cases hmem
  | cons e rest =>
    rw [hentries] at hkeys hslot hordered
    have he := hkeys e List.mem_cons_self
    have hr : r'.slot? i = some e.2 := hslot.mpr (he ▸ List.mem_cons_self)
    have hrest : rest = [] := by
      apply List.eq_nil_iff_forall_not_mem.mpr
      intro e' he'
      have hlt : e.1 < e'.1 := (List.pairwise_cons.mp hordered).1 e' he'
      rw [he, hkeys e' (List.mem_cons_of_mem _ he')] at hlt
      exact String.lt_irrefl _ hlt
    rw [hr, hrest, ← he]
    rfl

/-- Entries in order of their keys, of which at most one is the identity's. -/
theorem rest_of_ordered {entries : List (String × SlotId)} (hordered : Entries.Ordered entries)
    (hothers : ∀ e ∈ entries, e.1 ≠ i.key → Apart r owned e.2) :
    (∀ {n slot}, (i.key, slot) ∈ entries → Named owned n slot →
        Rest i owned r entries [(i.key, n)]) ∧
      ((∀ slot, (i.key, slot) ∉ entries) → Rest i owned r entries []) := by
  induction entries with
  | nil => exact ⟨nofun, fun _ => .nil⟩
  | cons e rest ih =>
    obtain ⟨hfirst, hrest⟩ := List.pairwise_cons.mp hordered
    obtain ⟨ihown, ihnone⟩ := ih hrest fun e' he' => hothers e' (List.mem_cons_of_mem _ he')
    constructor
    · intro n slot hmem hn
      rcases List.mem_cons.mp hmem with rfl | hmem
      · refine .own hn (ihnone ?_)
        intro slot' hmem'
        exact String.lt_irrefl _ (hfirst (i.key, slot') hmem')
      · have hne : e.1 ≠ i.key := fun heq => String.lt_irrefl _ (heq ▸ hfirst _ hmem)
        exact .other hne (hothers e List.mem_cons_self hne) (ihown hmem hn)
    · intro hnone
      have hne : e.1 ≠ i.key := fun heq => hnone e.2 (heq ▸ List.mem_cons_self)
      exact .other hne (hothers e List.mem_cons_self hne)
        (ihnone fun slot hmem => hnone slot (List.mem_cons_of_mem _ hmem))

theorem rest_of_shows (h : Shows i owned r r') :
    Rest i owned r r.slots.entries r'.slots.entries := by
  have hslot : ∀ {k}, r.slot? i = some k ↔ (i.key, k) ∈ r.slots.entries := Dictionary.get?_eq_some
  have hothers : ∀ e ∈ r.slots.entries, e.1 ≠ i.key → Apart r owned e.2 :=
    fun e he hne => h.others hne (Dictionary.get?_eq_some.mpr he)
  obtain ⟨hown, hnone⟩ := rest_of_ordered r.slots.ordered hothers
  rw [entries_eq h]
  have hentry := h.entry
  generalize hr' : r'.slot? i = o', hr : r.slot? i = o at hentry
  cases hentry with
  | some hn => exact hown (hslot.mp hr) hn
  | none =>
    apply hnone
    intro slot hmem
    rw [hslot.mpr hmem] at hr
    cases hr

end Interleaved

end ShadowTraffic
