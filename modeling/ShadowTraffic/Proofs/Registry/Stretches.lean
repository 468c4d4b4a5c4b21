import ShadowTraffic.Proofs.Registry.Slots

/-! # What a stretch can do

For each stretch, all that it can do to the registry and end with, in terms of the moves on slots
and on the map. Nothing after this module opens the definitions of the stretches.
-/

namespace ShadowTraffic

/-- The mediator whose shadow has to be closed. -/
def Closing.waits? : Closing → Option Mediator
  | shadow m => some m
  | _ => none

/-- How many mediators the call closes. -/
def Closing.count : Closing → Nat
  | nothing => 0
  | _ => 1

namespace Fetch

/-! ## Asking for a mediator -/

theorem attempt_cases (r : Registry) (c : CallerId) (q : Request) (fresh : SpanId) :
    let slot := (r.slotFor q.identity).1
    let r' := (r.slotFor q.identity).2
    let st := attempt r c q fresh
    (r'.mediator? slot ≠ none ∧ st.registry = r' ∧ st.outcome = .got slot) ∨
      (r'.cell slot = .vacant ∧ st.registry = r'.setCell slot (.building c []) ∧
        st.outcome = .pending (.building slot fresh)) ∨
      (∃ holder queue, r'.cell slot = .building holder queue ∧
        st.registry = r'.setCell slot (.building holder (queue ++ [c])) ∧
        st.outcome = .pending (.waiting slot)) := by
  dsimp only
  unfold attempt
  obtain ⟨slot, r'⟩ := r.slotFor q.identity
  dsimp only
  cases hcell : r'.cell slot with
  | built m => exact .inl ⟨by simp [Registry.mediator?, hcell], rfl, rfl⟩
  | vacant => exact .inr (.inl ⟨rfl, rfl, rfl⟩)
  | building holder queue => exact .inr (.inr ⟨holder, queue, rfl, rfl, rfl⟩)

theorem start_cases (r : Registry) (c : CallerId) (q : Request) (fresh : SpanId) :
    (∃ slot, r.lookup q.identity = some slot ∧ (start r c q fresh).registry = r ∧
        (start r c q fresh).outcome = .got slot) ∨
      (r.lookup q.identity = none ∧ start r c q fresh = attempt r c q fresh) := by
  unfold start
  cases h : r.lookup q.identity with
  | some slot => exact .inl ⟨slot, rfl, rfl, rfl⟩
  | none => exact .inr ⟨rfl, rfl⟩

theorem settle_cases (r : Registry) (c : CallerId) (q : Request) (fresh : SpanId) (slot : SlotId)
    (constructed : Bool) :
    let st := settle r c q fresh slot constructed
    let r' := (r.beginClose slot).2
    (r.slot? q.identity = some slot ∧ st.registry = r ∧ st.outcome = .got slot) ∨
      (r.slot? q.identity ≠ some slot ∧ st.registry = (attempt r' c q fresh).registry ∧
        st.outcome = (attempt r' c q fresh).outcome) ∨
      (r.slot? q.identity ≠ some slot ∧ st.registry = r' ∧
        ∃ m, st.outcome = .pending (.closing slot m)) := by
  dsimp only
  unfold settle
  split
  next howns => exact .inl ⟨Registry.owns_iff.mp howns, rfl, rfl⟩
  next howns =>
    have hne : r.slot? q.identity ≠ some slot := fun h => howns (Registry.owns_iff.mpr h)
    split
    next r' hclose => exact .inr (.inl ⟨hne, by rw [hclose], by rw [hclose]⟩)
    next m r' hclose => exact .inr (.inl ⟨hne, by rw [hclose]; rfl, by rw [hclose]; rfl⟩)
    next m r' hclose => exact .inr (.inr ⟨hne, by rw [hclose], m, rfl⟩)

theorem settle_own {r : Registry} {q : Request} {slot : SlotId}
    (h : r.slot? q.identity = some slot) (c : CallerId) (fresh : SpanId) (constructed : Bool) :
    (settle r c q fresh slot constructed).registry = r ∧
      (settle r c q fresh slot constructed).outcome = .got slot := by
  rw [settle, if_pos (Registry.owns_iff.mpr h)]
  exact ⟨rfl, rfl⟩

/-- An orphan is closed before another round begins, if there is something to close. -/
theorem settle_orphan {r : Registry} {q : Request} {slot : SlotId}
    (h : r.slot? q.identity ≠ some slot) (c : CallerId) (fresh : SpanId) (constructed : Bool) :
    let st := settle r c q fresh slot constructed
    let r' := (r.beginClose slot).2
    ((r.beginClose slot).1.waits? = none ∧ st.registry = (attempt r' c q fresh).registry ∧
        st.outcome = (attempt r' c q fresh).outcome) ∨
      ∃ m, (r.beginClose slot).1.waits? = some m ∧ st.registry = r' ∧
        st.outcome = .pending (.closing slot m) := by
  have howns : r.owns q.identity slot = false := by
    rw [← Bool.not_eq_true, Registry.owns_iff]
    exact h
  dsimp only
  rw [settle, howns]
  cases hclose : r.beginClose slot with
  | mk closing r' =>
    cases closing with
    | nothing => exact .inl ⟨rfl, rfl, rfl⟩
    | closed m => exact .inl ⟨rfl, rfl, rfl⟩
    | shadow m => exact .inr ⟨m, rfl, rfl, rfl⟩

theorem resume_cases (r : Registry) (c : CallerId) (q : Request) (fresh : SpanId)
    (slot : SlotId) :
    let st := resume r c q fresh slot
    (r.mediator? slot ≠ none ∧ st = settle r c q fresh slot false) ∨
      (∃ queue, r.cell slot = .building c queue ∧ st.registry = r ∧
        st.outcome = .pending (.building slot fresh)) ∨
      (∃ holder queue, r.cell slot = .building holder queue ∧ holder ≠ c ∧ st.registry = r ∧
        st.outcome = .pending (.waiting slot)) ∨
      (r.cell slot = .vacant ∧ st.registry = r.setCell slot (.building c []) ∧
        st.outcome = .pending (.building slot fresh)) := by
  dsimp only
  unfold resume
  cases hcell : r.cell slot with
  | built m => exact .inl ⟨by simp [Registry.mediator?, hcell], rfl⟩
  | vacant => exact .inr (.inr (.inr ⟨rfl, rfl, rfl⟩))
  | building holder queue =>
    dsimp only
    split
    next heq => exact .inr (.inl ⟨queue, by rw [heq], rfl, rfl⟩)
    next hne => exact .inr (.inr (.inl ⟨holder, queue, rfl, hne, rfl, rfl⟩))

theorem built_eq (r : Registry) (c : CallerId) (q : Request) (fresh : SpanId) (slot : SlotId)
    (span : SpanId) (p : Provision) :
    let settled := settle (r.setCell slot (.built (q.filling p))) c q fresh slot true
    (built r c q fresh slot span p).registry = settled.registry ∧
      (built r c q fresh slot span p).outcome = settled.outcome :=
  ⟨rfl, rfl⟩

theorem closed_eq (r : Registry) (c : CallerId) (q : Request) (fresh : SpanId) (m : Mediator)
    (failure : Option ProvisionError) :
    (closed r c q fresh m failure).registry = (attempt r c q fresh).registry ∧
      (closed r c q fresh m failure).outcome = (attempt r c q fresh).outcome :=
  ⟨rfl, rfl⟩

/-- A slot passed on has a new holder or is vacant again. -/
theorem passOn_eq (r : Registry) (slot : SlotId) (queue : List CallerId) :
    ∃ cell, (passOn r slot queue).registry = r.setCell slot cell ∧ ∀ m, cell ≠ .built m := by
  cases queue with
  | nil => exact ⟨.vacant, rfl, by simp⟩
  | cons next rest => exact ⟨.building next rest, rfl, by simp⟩

/-- A caller that goes away changes a slot at most that is not filled: its own if it builds, or one
where it waits, whose holder stays unless that is the caller itself. -/
theorem abandon_cases (r : Registry) (c : CallerId) (phase : FetchPhase) :
    (abandon r c phase).registry = r ∨
      ∃ slot cell, phase.slot? = some slot ∧
        (abandon r c phase).registry = r.setCell slot cell ∧ (∀ m, cell ≠ .built m) ∧
        ((∃ span, phase = .building slot span) ∨
          ∃ holder queue, r.cell slot = .building holder queue ∧
            (holder = c ∨ ∃ queue', cell = .building holder queue')) := by
  cases phase with
  | closing slot m => exact .inl rfl
  | building slot span =>
    obtain ⟨cell, hcell, hbuilt⟩ : ∃ cell,
        (abandon r c (.building slot span)).registry = r.setCell slot cell ∧
          ∀ m, cell ≠ .built m := passOn_eq r slot _
    exact .inr ⟨slot, cell, rfl, hcell, hbuilt, .inl ⟨span, rfl⟩⟩
  | waiting slot =>
    cases hcell : r.cell slot with
    | built m => exact .inl (by simp [abandon, hcell])
    | vacant => exact .inl (by simp [abandon, hcell])
    | building holder queue =>
      refine .inr ⟨slot, ?_⟩
      by_cases hholder : holder = c
      · obtain ⟨cell, hpass, hbuilt⟩ := passOn_eq r slot queue
        exact ⟨cell, rfl, by simp [abandon, hcell, hholder, hpass], hbuilt,
          .inr ⟨holder, queue, hcell, .inl hholder⟩⟩
      · exact ⟨.building holder (queue.erase c), rfl, by simp [abandon, hcell, hholder], by simp,
          .inr ⟨holder, queue, hcell, .inr ⟨queue.erase c, rfl⟩⟩⟩

/-- Where builders hold their slots, a caller that goes away touches no filled one. -/
theorem abandon_empty {r : Registry} {c : CallerId} {phase : FetchPhase}
    (h : ∀ {slot span}, phase = .building slot span → ∃ queue, r.cell slot = .building c queue) :
    (abandon r c phase).registry = r ∨
      ∃ slot cell, (abandon r c phase).registry = r.setCell slot cell ∧
        r.mediator? slot = none ∧ ∀ m, cell ≠ .built m := by
  rcases abandon_cases r c phase with hreg | ⟨slot, cell, -, hreg, hbuilt, hcell⟩
  · exact .inl hreg
  · refine .inr ⟨slot, cell, hreg, ?_, hbuilt⟩
    rcases hcell with ⟨span, hphase⟩ | ⟨holder, queue, hqueue, -⟩
    · obtain ⟨queue, hqueue⟩ := h hphase
      exact Registry.mediator?_of_building hqueue
    · exact Registry.mediator?_of_building hqueue

end Fetch

/-! ## Invalidation and release -/

namespace Invalidate

theorem start_cases (r : Registry) (i : Identity) :
    let st := start r i
    (r.slot? i = none ∧ st.registry = r ∧ st.outcome = .done false) ∨
      ∃ slot, r.slot? i = some slot ∧ st.registry = ((r.remove i).beginClose slot).2 ∧
        (st.outcome = .done true ∨ ∃ m, st.outcome = .closing m) := by
  dsimp only
  unfold start
  cases hslot : r.slot? i with
  | none => exact .inl ⟨rfl, rfl, rfl⟩
  | some slot =>
    refine .inr ⟨slot, rfl, ?_⟩
    dsimp only
    split
    next r' hclose => exact ⟨by rw [hclose]; rfl, .inl rfl⟩
    next m r' hclose => exact ⟨by rw [hclose]; rfl, .inl rfl⟩
    next m r' hclose => exact ⟨by rw [hclose], .inr ⟨m, rfl⟩⟩

theorem start_missing {r : Registry} {i : Identity} (h : r.slot? i = none) :
    (start r i).registry = r ∧ (start r i).outcome = .done false := by
  rw [start, h]
  exact ⟨rfl, rfl⟩

/-- What was in the map is closed, if there is something to close. -/
theorem start_found {r : Registry} {i : Identity} {slot : SlotId} (h : r.slot? i = some slot) :
    (start r i).registry = ((r.remove i).beginClose slot).2 ∧
      (start r i).outcome = match ((r.remove i).beginClose slot).1.waits? with
        | none => .done true
        | some m => .closing m := by
  rw [start, h]
  dsimp only
  cases hclose : (r.remove i).beginClose slot with
  | mk closing r' =>
    cases closing with
    | nothing => exact ⟨rfl, rfl⟩
    | closed m => exact ⟨rfl, rfl⟩
    | shadow m => exact ⟨rfl, rfl⟩

end Invalidate

namespace Release

theorem drain_nil (r : Registry) (count : Nat) :
    (drain r count []).registry = r ∧ (drain r count []).outcome = .done count :=
  ⟨rfl, rfl⟩

/-- Draining closes the first slot, and then goes on with the others or is suspended. -/
theorem drain_cons (r : Registry) (count : Nat) (slot : SlotId) (rest : List SlotId) :
    let st := drain r count (slot :: rest)
    let r' := (r.beginClose slot).2
    (∃ count', st.registry = (drain r' count' rest).registry ∧
        st.outcome = (drain r' count' rest).outcome) ∨
      (st.registry = r' ∧ ∃ m, st.outcome = .closing m rest (count + 1)) := by
  dsimp only
  rw [drain]
  split
  next r' hclose => exact .inl ⟨count, by rw [hclose], by rw [hclose]⟩
  next m r' hclose => exact .inl ⟨count + 1, by rw [hclose]; rfl, by rw [hclose]; rfl⟩
  next m r' hclose => exact .inr ⟨by rw [hclose], m, rfl⟩

/-- The drain counts what it closes, and stops where a shadow has to be closed. -/
theorem drain_counts (r : Registry) (count : Nat) (slot : SlotId) (rest : List SlotId) :
    let st := drain r count (slot :: rest)
    let r' := (r.beginClose slot).2
    let count' := count + (r.beginClose slot).1.count
    ((r.beginClose slot).1.waits? = none ∧ st.registry = (drain r' count' rest).registry ∧
        st.outcome = (drain r' count' rest).outcome) ∨
      ∃ m, (r.beginClose slot).1.waits? = some m ∧ st.registry = r' ∧
        st.outcome = .closing m rest count' := by
  dsimp only
  rw [drain]
  cases hclose : r.beginClose slot with
  | mk closing r' =>
    cases closing with
    | nothing => exact .inl ⟨rfl, rfl, rfl⟩
    | closed m => exact .inl ⟨rfl, rfl, rfl⟩
    | shadow m => exact .inr ⟨m, rfl, rfl, rfl⟩

theorem start_eq (r : Registry) (fresh : SpanId) :
    let drained := drain { r with slots := .empty } 0 (r.slots.entries.map (·.2))
    (start r fresh).registry = drained.registry ∧ (start r fresh).outcome = drained.outcome :=
  ⟨rfl, rfl⟩

theorem closed_eq (r : Registry) (m : Mediator) (rest : List SlotId) (count : Nat)
    (failure : Option ProvisionError) :
    (closed r m rest count failure).registry = (drain r count rest).registry ∧
      (closed r m rest count failure).outcome = (drain r count rest).outcome :=
  ⟨rfl, rfl⟩

end Release

end ShadowTraffic
