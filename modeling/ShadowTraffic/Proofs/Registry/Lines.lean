import ShadowTraffic.Proofs.Registry.Later

/-! # Callers in line

At a slot that is not filled stand all who wait for it or build in it, each of them once, the
holder first. Whoever comes stands at the end, and whoever goes away takes out its own place, so
that the next one is the holder whenever the first one leaves.
-/

namespace ShadowTraffic

/-- The callers at a slot, the holder first. -/
def Cell.line : Cell → List CallerId
  | .building holder queue => holder :: queue
  | _ => []

/-- The cell of a slot with these callers at it. -/
def Cell.ofLine : List CallerId → Cell
  | [] => .vacant
  | holder :: queue => .building holder queue

@[simp] theorem Cell.line_ofLine (line : List CallerId) : (ofLine line).line = line := by
  cases line <;> rfl

theorem Cell.ofLine_ne_built (line : List CallerId) (m : Mediator) : ofLine line ≠ .built m := by
  cases line <;> nofun

/-- The slot where a suspended caller waits or builds. -/
def Ongoing.slot? : Ongoing → Option SlotId
  | .fetch _ phase => phase.slot?
  | _ => none

namespace Registry

variable {r : Registry} {slot : SlotId} {c : CallerId}

def line (r : Registry) (slot : SlotId) : List CallerId :=
  (r.cell slot).line

theorem lt_of_mem_line (h : c ∈ r.line slot) : slot < r.cells.size := by
  refine cell_lt fun hvacant => ?_
  simp [line, hvacant, Cell.line] at h

theorem cell_of_line {holder : CallerId} {queue : List CallerId}
    (h : r.line slot = holder :: queue) : r.cell slot = .building holder queue := by
  cases hcell : r.cell slot with
  | building holder' queue' => simpa [line, hcell, Cell.line] using h
  | vacant => simp [line, hcell, Cell.line] at h
  | built m => simp [line, hcell, Cell.line] at h

theorem line_setCell_ofLine (h : slot < r.cells.size) (line : List CallerId) (other : SlotId) :
    (r.setCell slot (.ofLine line)).line other = if other = slot then line else r.line other := by
  simp only [Registry.line, cell_setCell, h, and_true]
  split
  · exact Cell.line_ofLine line
  · rfl

theorem mediator?_setCell_ofLine (h : r.mediator? slot = none) (line : List CallerId)
    (other : SlotId) :
    (r.setCell slot (.ofLine line)).mediator? other = none ↔ r.mediator? other = none := by
  rw [← filling?_eq_none, ← filling?_eq_none,
    filling?_setCell (filling?_eq_none.mpr h) (Cell.ofLine_ne_built line)]

end Registry

/-- Where a slot is not filled, those in its line are those who wait or build there. -/
structure Manned (r : Registry) (ongoing : CallerId → Option Ongoing) : Prop where
  nodup : ∀ slot, (r.line slot).Nodup
  mem_line : ∀ {c slot}, c ∈ r.line slot ↔
    (ongoing c).bind Ongoing.slot? = some slot ∧ r.mediator? slot = none

namespace Manned

variable {r r' : Registry} {ongoing : CallerId → Option Ongoing} {c : CallerId}
  {o : Option Ongoing} {slot : SlotId}

theorem empty : Manned {} (fun _ => none) where
  nodup _ := List.nodup_nil
  mem_line := by simp [Registry.line, Registry.cell, Cell.line]

theorem not_mem_of_idle (h : Manned r ongoing) (idle : (ongoing c).bind Ongoing.slot? = none)
    (slot : SlotId) : c ∉ r.line slot := by
  rw [h.mem_line, idle]
  nofun

/-- Whoever stands at a filled slot is in no line. -/
theorem not_mem_of_filled (h : Manned r ongoing)
    (hat : (ongoing c).bind Ongoing.slot? = some slot) (hfilled : r.mediator? slot ≠ none)
    (other : SlotId) : c ∉ r.line other := by
  rw [h.mem_line, hat]
  rintro ⟨heq, hnone⟩
  cases heq
  exact hfilled hnone

/-- A caller stands at one slot at most. -/
theorem line_unique (h : Manned r ongoing) {other : SlotId} (hmem : c ∈ r.line slot)
    (hother : c ∈ r.line other) : other = slot :=
  Option.some.inj ((h.mem_line.mp hother).1.symm.trans (h.mem_line.mp hmem).1)

/-! ## Moves -/

/-- One caller comes to stand somewhere else, and the others stay in line where the slot is not
filled. -/
theorem move (h : Manned r ongoing) (hnodup : ∀ slot, (r'.line slot).Nodup)
    (hempty : ∀ slot, r'.mediator? slot = none → r.mediator? slot = none)
    (hothers : ∀ d, d ≠ c → ∀ slot,
      d ∈ r'.line slot ↔ d ∈ r.line slot ∧ r'.mediator? slot = none)
    (hown : ∀ slot,
      c ∈ r'.line slot ↔ o.bind Ongoing.slot? = some slot ∧ r'.mediator? slot = none) :
    Manned r' (Function.update ongoing c o) where
  nodup := hnodup
  mem_line := by
    intro d slot
    -- the caller that moves, and the others
    by_cases hdc : d = c
    · rw [hdc, Function.update_self]
      exact hown slot
    · rw [Function.update_of_ne hdc, hothers d hdc, h.mem_line]
      constructor
      · rintro ⟨⟨hd, -⟩, hnone⟩
        exact ⟨hd, hnone⟩
      · rintro ⟨hd, hnone⟩
        exact ⟨⟨hd, hempty slot hnone⟩, hnone⟩

theorem congr (h : Manned r ongoing) (hline : ∀ slot, r'.line slot = r.line slot)
    (hempty : ∀ slot, r'.mediator? slot = none ↔ r.mediator? slot = none) :
    Manned r' ongoing where
  nodup slot := by
    rw [hline]
    exact h.nodup slot
  mem_line := by
    intro c slot
    rw [hline, hempty]
    exact h.mem_line

/-- A caller that is in no line, and will be in none, may do as it likes. -/
theorem apart (h : Manned r ongoing) (hline : ∀ slot, c ∉ r.line slot)
    (ho : o.bind Ongoing.slot? = none) : Manned r (Function.update ongoing c o) := by
  refine h.move h.nodup (fun _ => id) (fun d hd slot => ?_) fun slot => ?_
  · exact ⟨fun hmem => ⟨hmem, (h.mem_line.mp hmem).2⟩, And.left⟩
  · rw [ho]
    exact ⟨fun hmem => absurd hmem (hline slot), nofun⟩

/-- A caller stays where it stands. -/
theorem stay (h : Manned r ongoing) (ho : o.bind Ongoing.slot? = (ongoing c).bind Ongoing.slot?) :
    Manned r (Function.update ongoing c o) := by
  refine h.move h.nodup (fun _ => id) (fun d hd slot => ?_) fun slot => ?_
  · exact ⟨fun hmem => ⟨hmem, (h.mem_line.mp hmem).2⟩, And.left⟩
  · rw [ho]
    exact h.mem_line

/-- A caller comes to the end of a line. -/
theorem join (h : Manned r ongoing) (idle : (ongoing c).bind Ongoing.slot? = none)
    (hslot : slot < r.cells.size) (hempty : r.mediator? slot = none)
    (ho : o.bind Ongoing.slot? = some slot) :
    Manned (r.setCell slot (.ofLine (r.line slot ++ [c]))) (Function.update ongoing c o) := by
  have hnot := h.not_mem_of_idle idle
  have hmed := r.mediator?_setCell_ofLine hempty (r.line slot ++ [c])
  have hline := r.line_setCell_ofLine hslot (r.line slot ++ [c])
  refine h.move (fun other => ?_) (fun other => (hmed other).mp) (fun d hd other => ?_)
    fun other => ?_
  · rw [hline]
    split
    · rw [(List.perm_append_singleton c (r.line slot)).nodup_iff]
      exact List.nodup_cons.mpr ⟨hnot slot, h.nodup slot⟩
    · exact h.nodup other
  · rw [hline, hmed]
    split
    next heq => simp [heq, hd, hempty]
    next => exact ⟨fun hmem => ⟨hmem, (h.mem_line.mp hmem).2⟩, And.left⟩
  · rw [hline, hmed, ho]
    split
    next heq => simp [heq, hempty]
    next hne => simpa [hnot other] using fun heq => absurd heq.symm hne

/-- A caller leaves its line. -/
theorem leave (h : Manned r ongoing) (hmem : c ∈ r.line slot)
    (ho : o.bind Ongoing.slot? = none) :
    Manned (r.setCell slot (.ofLine ((r.line slot).erase c))) (Function.update ongoing c o) := by
  have hempty := (h.mem_line.mp hmem).2
  have hslot := Registry.lt_of_mem_line hmem
  have hmed := r.mediator?_setCell_ofLine hempty ((r.line slot).erase c)
  have hline := r.line_setCell_ofLine hslot ((r.line slot).erase c)
  refine h.move (fun other => ?_) (fun other => (hmed other).mp) (fun d hd other => ?_)
    fun other => ?_
  · rw [hline]
    split
    · exact (h.nodup slot).erase c
    · exact h.nodup other
  · rw [hline, hmed]
    split
    next heq => simp [heq, hempty, List.mem_erase_of_ne hd]
    next => exact ⟨fun hmem => ⟨hmem, (h.mem_line.mp hmem).2⟩, And.left⟩
  · rw [hline, ho]
    refine ⟨fun hin => ?_, nofun⟩
    split at hin
    next => exact absurd hin (h.nodup slot).not_mem_erase
    next hne => exact absurd (h.line_unique hmem hin) hne

/-- A caller fills the slot where it stands, and the line is gone. -/
theorem fill (h : Manned r ongoing) (hmem : c ∈ r.line slot) (m : Mediator)
    (ho : o.bind Ongoing.slot? = none) :
    Manned (r.setCell slot (.built m)) (Function.update ongoing c o) := by
  have hempty := (h.mem_line.mp hmem).2
  have hslot := Registry.lt_of_mem_line hmem
  have hline (other : SlotId) :
      (r.setCell slot (.built m)).line other = if other = slot then [] else r.line other := by
    simp only [Registry.line, Registry.cell_setCell, hslot, and_true]
    split <;> rfl
  have hmed (other : SlotId) : (r.setCell slot (.built m)).mediator? other = none ↔
      other ≠ slot ∧ r.mediator? other = none := by
    rw [← Registry.filling?_eq_none, Registry.filling?_setCell_built hslot,
      ← Registry.filling?_eq_none]
    split
    next heq => simp [heq]
    next hne => simp [hne]
  refine h.move (fun other => ?_) (fun other hnone => ((hmed other).mp hnone).2)
    (fun d hd other => ?_) fun other => ?_
  · rw [hline]
    split
    · exact List.nodup_nil
    · exact h.nodup other
  · rw [hline, hmed]
    split
    next heq => simp [heq]
    next hne => exact ⟨fun hin => ⟨hin, hne, (h.mem_line.mp hin).2⟩, And.left⟩
  · rw [hline, ho]
    refine ⟨fun hin => ?_, nofun⟩
    split at hin
    next => cases hin
    next hne => exact absurd (h.line_unique hmem hin) hne

/-! ## Moves on the map and on release flags -/

theorem slotFor (h : Manned r ongoing) (i : Identity) : Manned (r.slotFor i).2 ongoing :=
  h.congr (fun slot => by simp [Registry.line]) (fun slot => by simp)

theorem remove (h : Manned r ongoing) (i : Identity) : Manned (r.remove i) ongoing :=
  h.congr (fun _ => rfl) fun _ => Iff.rfl

theorem drained (h : Manned r ongoing) : Manned { r with slots := .empty } ongoing :=
  h.congr (fun _ => rfl) fun _ => Iff.rfl

theorem beginClose (h : Manned r ongoing) (slot : SlotId) :
    Manned (r.beginClose slot).2 ongoing := by
  rcases r.beginClose_cases slot with ⟨hsame, -⟩ | hmark
  · rw [hsame]
    exact h
  · rw [hmark]
    refine h.congr (fun other => ?_) fun other => by simp [Registry.mediator?_markReleased]
    rw [Registry.line, Registry.cell_markReleased, Registry.line]
    cases r.cell other <;> rfl

end Manned

/-! ## Asking for a mediator -/

namespace Fetch

/-- Where the slot is not filled the caller comes to stand in its line. -/
theorem attempt_line (r : Registry) (c : CallerId) (q : Request) (fresh : SpanId) :
    let slot := (r.slotFor q.identity).1
    let r' := (r.slotFor q.identity).2
    let st := attempt r c q fresh
    (st.registry = r' ∧ st.outcome = .got slot) ∨
      (r'.mediator? slot = none ∧ st.registry = r'.setCell slot (.ofLine (r'.line slot ++ [c])) ∧
        ∃ phase, st.outcome = .pending phase ∧ phase.slot? = some slot) := by
  dsimp only
  rcases attempt_cases r c q fresh with
    ⟨-, hreg, hout⟩ | ⟨hcell, hreg, hout⟩ | ⟨holder, queue, hcell, hreg, hout⟩
  · exact .inl ⟨hreg, hout⟩
  · refine .inr ⟨Registry.mediator?_of_vacant hcell, ?_, _, hout, rfl⟩
    rw [hreg, Registry.line, hcell]
    rfl
  · refine .inr ⟨Registry.mediator?_of_building hcell, ?_, _, hout, rfl⟩
    rw [hreg, Registry.line, hcell]
    rfl

theorem passOn_ofLine (r : Registry) (slot : SlotId) (queue : List CallerId) :
    (passOn r slot queue).registry = r.setCell slot (.ofLine queue) := by
  cases queue <;> rfl

section

variable {r : Registry} {c : CallerId} {phase : FetchPhase} {slot : SlotId}
  (hphase : phase.slot? = some slot)
  (hbuilding : ∀ {slot span}, phase = .building slot span → ∃ queue, r.cell slot = .building c queue)
include hphase hbuilding

/-- A caller that goes away takes its own place out of the line. -/
theorem abandon_line (hmem : c ∈ r.line slot) :
    (abandon r c phase).registry = r.setCell slot (.ofLine ((r.line slot).erase c)) := by
  cases phase with
  | closing other m => cases hphase
  | building other span =>
    cases hphase
    obtain ⟨queue, hqueue⟩ := hbuilding rfl
    have hpass := passOn_ofLine r slot queue
    simpa [abandon, hqueue, Stretch.after, Registry.line, Cell.line] using hpass
  | waiting other =>
    cases hphase
    cases hline : r.line slot with
    | nil => simp [hline] at hmem
    | cons holder queue =>
      have hcell := Registry.cell_of_line hline
      by_cases hholder : holder = c
      · have hpass := passOn_ofLine r slot queue
        simpa [abandon, hcell, hholder] using hpass
      · simp [abandon, hcell, hholder, Cell.ofLine]

theorem abandon_filled (hfilled : r.mediator? slot ≠ none) :
    (abandon r c phase).registry = r := by
  cases phase with
  | closing other m => cases hphase
  | building other span =>
    cases hphase
    obtain ⟨queue, hqueue⟩ := hbuilding rfl
    exact absurd (Registry.mediator?_of_building hqueue) hfilled
  | waiting other =>
    cases hphase
    obtain ⟨m, hm⟩ := Option.ne_none_iff_exists'.mp hfilled
    simp [abandon, Registry.mediator?_eq_some.mp hm]

end

end Fetch

/-- Every slot that a key leads to has been opened. -/
def Registry.Opened (r : Registry) : Prop :=
  ∀ {key slot}, r.slots.get? key = some slot → slot < r.cells.size

namespace Registry.Opened

variable {r : Registry}

theorem beginClose (h : r.Opened) (slot : SlotId) : (r.beginClose slot).2.Opened := by
  intro key other hkey
  rw [slots_beginClose] at hkey
  exact Nat.lt_of_lt_of_le (h hkey) (Later.beginClose r slot).size_le

theorem slotFor (h : r.Opened) (i : Identity) : (r.slotFor i).1 < (r.slotFor i).2.cells.size := by
  cases hi : r.slot? i with
  | some slot => simpa [slotFor_of_some hi] using h hi
  | none => simp [slotFor_of_none hi]

end Registry.Opened

namespace Manned

variable {r : Registry} {ongoing : CallerId → Option Ongoing} {c : CallerId}

section

variable (h : Manned r ongoing) (hopened : r.Opened)
  (idle : (ongoing c).bind Ongoing.slot? = none)
include h hopened idle

theorem attempt (q : Request) (fresh : SpanId) :
    Manned (Fetch.attempt r c q fresh).registry
      (Function.update ongoing c
        (Outcome.ofFetch q (Fetch.attempt r c q fresh).outcome).ongoing?) := by
  have hopen := h.slotFor q.identity
  rcases Fetch.attempt_line r c q fresh with ⟨hreg, hout⟩ | ⟨hempty, hreg, phase, hout, hphase⟩
  · rw [hreg, hout]
    exact hopen.apart (hopen.not_mem_of_idle idle) rfl
  · rw [hreg, hout]
    exact hopen.join idle (hopened.slotFor q.identity) hempty hphase

theorem settle (q : Request) (fresh : SpanId) (slot : SlotId) (constructed : Bool) :
    Manned (Fetch.settle r c q fresh slot constructed).registry
      (Function.update ongoing c
        (Outcome.ofFetch q (Fetch.settle r c q fresh slot constructed).outcome).ongoing?) := by
  have hclosed := h.beginClose slot
  rcases Fetch.settle_cases r c q fresh slot constructed with
    ⟨-, hreg, hout⟩ | ⟨-, hreg, hout⟩ | ⟨-, hreg, m, hout⟩
  · rw [hreg, hout]
    exact h.apart (h.not_mem_of_idle idle) rfl
  · rw [hreg, hout]
    exact hclosed.attempt (hopened.beginClose slot) idle q fresh
  · rw [hreg, hout]
    exact hclosed.apart (hclosed.not_mem_of_idle idle) rfl

theorem fetch_start (q : Request) (fresh : SpanId) :
    Manned (Fetch.start r c q fresh).registry
      (Function.update ongoing c
        (Outcome.ofFetch q (Fetch.start r c q fresh).outcome).ongoing?) := by
  rcases Fetch.start_cases r c q fresh with ⟨slot, -, hreg, hout⟩ | ⟨-, hattempt⟩
  · rw [hreg, hout]
    exact h.apart (h.not_mem_of_idle idle) rfl
  · rw [hattempt]
    exact h.attempt hopened idle q fresh

end

theorem resume {q : Request} {slot : SlotId} (h : Manned r ongoing) (hopened : r.Opened)
    (here : ongoing c = some (.fetch q (.waiting slot))) (fresh : SpanId) :
    Manned (Fetch.resume r c q fresh slot).registry
      (Function.update ongoing c
        (Outcome.ofFetch q (Fetch.resume r c q fresh slot).outcome).ongoing?) := by
  have hat : (ongoing c).bind Ongoing.slot? = some slot := by rw [here]; rfl
  rcases Fetch.resume_cases r c q fresh slot with ⟨hfilled, heq⟩ | ⟨queue, -, hreg, hout⟩ |
    ⟨holder, queue, -, -, hreg, hout⟩ | ⟨hcell, -, -⟩
  · -- the slot has been filled, and the caller is out of line
    have hout := h.apart (o := none) (h.not_mem_of_filled hat hfilled) rfl
    have idle : (Function.update ongoing c none c).bind Ongoing.slot? = none := by simp
    have hsettled := hout.settle hopened idle q fresh slot false
    rw [heq]
    simpa using hsettled
  · rw [hreg, hout]
    exact h.stay (by rw [hat]; rfl)
  · rw [hreg, hout]
    exact h.stay (by rw [hat]; rfl)
  · have hmem := h.mem_line.mpr ⟨hat, Registry.mediator?_of_vacant hcell⟩
    simp [Registry.line, hcell, Cell.line] at hmem

theorem built {q : Request} {slot : SlotId} {span : SpanId} (h : Manned r ongoing)
    (hopened : r.Opened) (hmem : c ∈ r.line slot) (fresh : SpanId) (p : Provision) :
    Manned (Fetch.built r c q fresh slot span p).registry
      (Function.update ongoing c
        (Outcome.ofFetch q (Fetch.built r c q fresh slot span p).outcome).ongoing?) := by
  have hfilled := h.fill hmem (q.filling p) (o := none) rfl
  have hopened' : (r.setCell slot (.built (q.filling p))).Opened := by
    intro key other hkey
    simpa using hopened hkey
  have idle : (Function.update ongoing c none c).bind Ongoing.slot? = none := by simp
  have hsettled := hfilled.settle hopened' idle q fresh slot true
  obtain ⟨hreg, hout⟩ := Fetch.built_eq r c q fresh slot span p
  rw [hreg, hout]
  simpa using hsettled

theorem abandon {q : Request} {phase : FetchPhase} (h : Manned r ongoing)
    (here : ongoing c = some (.fetch q phase))
    (hbuilding : ∀ {slot span}, phase = .building slot span →
      ∃ queue, r.cell slot = .building c queue) :
    Manned (Fetch.abandon r c phase).registry (Function.update ongoing c none) := by
  have hat : (ongoing c).bind Ongoing.slot? = phase.slot? := by rw [here]; rfl
  cases hphase : phase.slot? with
  | none =>
    cases phase with
    | closing slot m => exact h.apart (h.not_mem_of_idle hat) rfl
    | waiting slot => cases hphase
    | building slot span => cases hphase
  | some slot =>
    rw [hphase] at hat
    cases hfilled : r.mediator? slot with
    | none =>
      have hmem : c ∈ r.line slot := h.mem_line.mpr ⟨hat, hfilled⟩
      rw [Fetch.abandon_line hphase hbuilding hmem]
      exact h.leave hmem rfl
    | some m =>
      have hne : r.mediator? slot ≠ none := by simp [hfilled]
      rw [Fetch.abandon_filled hphase hbuilding hne]
      exact h.apart (h.not_mem_of_filled hat hne) rfl

/-! ## Invalidation and release -/

theorem invalidate_start (h : Manned r ongoing) (idle : (ongoing c).bind Ongoing.slot? = none)
    (i : Identity) :
    Manned (Invalidate.start r i).registry
      (Function.update ongoing c
        (Outcome.ofInvalidate i (Invalidate.start r i).outcome).ongoing?) := by
  rcases Invalidate.start_cases r i with ⟨-, hreg, hout⟩ | ⟨slot, -, hreg, hout⟩
  · rw [hreg, hout]
    exact h.apart (h.not_mem_of_idle idle) rfl
  · have hclosed := (h.remove i).beginClose slot
    rcases hout with hout | ⟨m, hout⟩
    · rw [hreg, hout]
      exact hclosed.apart (hclosed.not_mem_of_idle idle) rfl
    · rw [hreg, hout]
      exact hclosed.apart (hclosed.not_mem_of_idle idle) rfl

theorem drain (h : Manned r ongoing) (idle : (ongoing c).bind Ongoing.slot? = none) (count : Nat)
    (slots : List SlotId) :
    Manned (Release.drain r count slots).registry
      (Function.update ongoing c
        (Outcome.ofRelease (Release.drain r count slots).outcome).ongoing?) := by
  induction slots generalizing r count with
  | nil => exact h.apart (h.not_mem_of_idle idle) rfl
  | cons slot rest ih =>
    have hclosed := h.beginClose slot
    rcases Release.drain_cons r count slot rest with ⟨count', hreg, hout⟩ | ⟨hreg, m, hout⟩
    · rw [hreg, hout]
      exact ih hclosed count'
    · rw [hreg, hout]
      exact hclosed.apart (hclosed.not_mem_of_idle idle) rfl

/-! ## Steps and runs -/

variable {s : Shared} {held : List SlotId}

theorem stretch {a : Action} {st : Stretch Outcome} (h : Manned s.registry s.ongoing)
    (hs : s.Sound held) (ht : Shared.Takes s c a st) :
    Manned st.registry (Function.update s.ongoing c st.outcome.ongoing?) := by
  have hopened : s.registry.Opened := hs.opened
  cases ht with
  | fetch q idle => exact h.fetch_start hopened (by rw [idle]; rfl) q s.spans
  | lookup i idle => exact h.stay (by rw [idle]; rfl)
  | invalidate i idle => exact h.invalidate_start (by rw [idle]; rfl) i
  | release idle => exact h.drained.drain (by rw [idle]; rfl) 0 _
  | resume here => exact h.resume hopened here s.spans
  | @built q slot span p here =>
    obtain ⟨queue, hcell⟩ := hs.building here
    exact h.built hopened (by simp [Registry.line, hcell, Cell.line]) s.spans p
  | closed failure here => exact h.attempt hopened (by rw [here]; rfl) _ s.spans
  | abandon here => exact h.abandon here fun hphase => hs.building (hphase ▸ here)
  | invalidated failure here => exact h.stay (by rw [here]; rfl)
  | abandonInvalidation here => exact h.stay (by rw [here]; rfl)
  | released failure here => exact h.drain (by rw [here]; rfl) _ _
  | abandonRelease here => exact h.stay (by rw [here]; rfl)

end Manned

namespace Shared

/-- In a registry in use the lines hold those who stand at their slots. -/
theorem manned_run (schedule : Schedule) :
    let s := (({} : Shared).run schedule).final
    Manned s.registry s.ongoing := by
  refine (System.run_invariant
    (P := fun s : Shared => (∃ held, s.Sound held) ∧ Manned s.registry s.ongoing)
    ?_ ⟨⟨[], Sound.initial⟩, Manned.empty⟩ schedule).2
  rintro s ⟨c, a⟩ t ⟨⟨held, hs⟩, h⟩ ht
  obtain ⟨-, -, -, st, htakes, -, hafter⟩ := step_spec ht
  refine ⟨⟨_, hs.step ht⟩, ?_⟩
  change Manned t.after.registry t.after.ongoing
  rw [hafter]
  exact h.stretch hs htakes

end Shared

end ShadowTraffic
