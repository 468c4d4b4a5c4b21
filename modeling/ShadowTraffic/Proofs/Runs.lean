/-! # Runs

A system takes a schedule of events, one after the other. Each event is one transition, or is
passed over where it does not fit, so that every list of events is a schedule. What holds of all
runs is proved by what one transition keeps.
-/

namespace ShadowTraffic

structure System (State Event Step : Type) where
  /-- What an event leads to, if it fits. -/
  step : State → Event → Option Step
  after : Step → State

/-- Where a schedule leads, and every transition on the way. -/
structure Run (State Step : Type) where
  final : State
  transitions : List Step

namespace System

variable {State Event Step : Type} (sys : System State Event Step)

def run (s : State) : List Event → Run State Step
  | [] => ⟨s, []⟩
  | e :: rest =>
    match sys.step s e with
    | none => run s rest
    | some t => ⟨(run (sys.after t) rest).final, t :: (run (sys.after t) rest).transitions⟩

variable {sys} {s : State} {e : Event} {t : Step}

theorem run_cons_none (h : sys.step s e = none) (rest : List Event) :
    sys.run s (e :: rest) = sys.run s rest := by
  simp [run, h]

theorem run_cons_some (h : sys.step s e = some t) (rest : List Event) :
    sys.run s (e :: rest) =
      ⟨(sys.run (sys.after t) rest).final, t :: (sys.run (sys.after t) rest).transitions⟩ := by
  simp [run, h]

/-- A schedule can be cut anywhere. -/
theorem run_append (s : State) (first second : List Event) :
    sys.run s (first ++ second) =
      ⟨(sys.run (sys.run s first).final second).final,
        (sys.run s first).transitions ++
          (sys.run (sys.run s first).final second).transitions⟩ := by
  induction first generalizing s with
  | nil => rfl
  | cons e first ih =>
    cases h : sys.step s e with
    | none => simp only [List.cons_append, run_cons_none h, ih]
    | some t => simp only [List.cons_append, run_cons_some h, ih]

/-- A transition of a run is a step from where a part of the schedule leads, and the rest of the
schedule goes on from where that step leads. -/
theorem run_split {schedule : List Event} {earlier later : List Step}
    (h : (sys.run s schedule).transitions = earlier ++ t :: later) :
    ∃ first e rest, schedule = first ++ e :: rest ∧
      (sys.run s first).transitions = earlier ∧
      sys.step (sys.run s first).final e = some t ∧
      sys.run (sys.after t) rest = ⟨(sys.run s schedule).final, later⟩ := by
  induction schedule generalizing s earlier with
  | nil => simp [run] at h
  | cons e schedule ih =>
    cases hstep : sys.step s e with
    | none =>
      rw [run_cons_none hstep] at h ⊢
      obtain ⟨first, e', rest, rfl, hearlier, hfirst, hrest⟩ := ih h
      refine ⟨e :: first, e', rest, rfl, ?_, ?_, hrest⟩
      · rw [run_cons_none hstep, hearlier]
      · rw [run_cons_none hstep, hfirst]
    | some u =>
      rw [run_cons_some hstep] at h ⊢
      cases earlier with
      | nil =>
        rw [List.nil_append, List.cons.injEq] at h
        obtain ⟨rfl, rfl⟩ := h
        exact ⟨[], e, schedule, rfl, rfl, hstep, rfl⟩
      | cons v earlier =>
        rw [List.cons_append, List.cons.injEq] at h
        obtain ⟨rfl, h⟩ := h
        obtain ⟨first, e', rest, rfl, hearlier, hfirst, hrest⟩ := ih h
        refine ⟨e :: first, e', rest, rfl, ?_, ?_, hrest⟩
        · rw [run_cons_some hstep, hearlier]
        · rw [run_cons_some hstep, hfirst]

theorem run_mem {schedule : List Event} (h : t ∈ (sys.run s schedule).transitions) :
    ∃ first e rest, schedule = first ++ e :: rest ∧
      sys.step (sys.run s first).final e = some t := by
  obtain ⟨earlier, later, hsplit⟩ := List.append_of_mem h
  obtain ⟨first, e, rest, hschedule, -, hstep, -⟩ := run_split hsplit
  exact ⟨first, e, rest, hschedule, hstep⟩

/-- Where a transition leads, a part of the schedule leads. -/
theorem run_after {schedule : List Event} (h : t ∈ (sys.run s schedule).transitions) :
    ∃ first rest, schedule = first ++ rest ∧ (sys.run s first).final = sys.after t := by
  obtain ⟨first, e, rest, rfl, hstep⟩ := run_mem h
  refine ⟨first ++ [e], rest, by simp, ?_⟩
  rw [run_append, run_cons_some hstep]
  rfl

/-- What every transition of a kind keeps holds at the end of a run of such transitions. -/
theorem run_invariant_of {P : State → Prop} {Q : Step → Prop}
    (hstep : ∀ {s e t}, P s → sys.step s e = some t → Q t → P (sys.after t)) (h : P s)
    (schedule : List Event) (hall : ∀ t ∈ (sys.run s schedule).transitions, Q t) :
    P (sys.run s schedule).final := by
  induction schedule generalizing s with
  | nil => exact h
  | cons e schedule ih =>
    cases he : sys.step s e with
    | none =>
      rw [run_cons_none he] at hall ⊢
      exact ih h hall
    | some t =>
      rw [run_cons_some he] at hall ⊢
      have hafter := hstep h he (hall t List.mem_cons_self)
      exact ih hafter fun u hu => hall u (List.mem_cons_of_mem _ hu)

/-- What every transition keeps holds to the end. -/
theorem run_invariant {P : State → Prop}
    (hstep : ∀ {s e t}, P s → sys.step s e = some t → P (sys.after t)) (h : P s)
    (schedule : List Event) : P (sys.run s schedule).final :=
  run_invariant_of (Q := fun _ => True) (fun hs he _ => hstep hs he) h schedule
    fun _ _ => trivial

/-- What holds at the end held at the beginning or came with a transition, if that is so for every
transition; for this an invariant may be used. -/
theorem run_origin {I P : State → Prop} {Q : Step → Prop}
    (hkeep : ∀ {s e t}, I s → sys.step s e = some t → I (sys.after t))
    (hstep : ∀ {s e t}, I s → sys.step s e = some t → P (sys.after t) → P s ∨ Q t) (h : I s)
    (schedule : List Event) (hfinal : P (sys.run s schedule).final) :
    P s ∨ ∃ t ∈ (sys.run s schedule).transitions, Q t := by
  induction schedule generalizing s with
  | nil => exact .inl hfinal
  | cons e schedule ih =>
    cases he : sys.step s e with
    | none =>
      rw [run_cons_none he] at hfinal ⊢
      exact ih h hfinal
    | some t =>
      rw [run_cons_some he] at hfinal ⊢
      rcases ih (hkeep h he) hfinal with hafter | ⟨u, hu, hcame⟩
      · rcases hstep h he hafter with hbefore | hcame
        · exact .inl hbefore
        · exact .inr ⟨t, List.mem_cons_self, hcame⟩
      · exact .inr ⟨u, List.mem_cons_of_mem _ hu, hcame⟩

/-! ## Events left out -/

/-- Two runs of which one takes every event and the other some of them only. Their states stay
related, and an event that both take is seen alike in both. -/
structure Overlooks {β : Type} (sys : System State Event Step) (R : State → State → Prop)
    (takes : Event → Bool) (shown : Step → Bool) (view : Step → β) : Prop where
  taken : ∀ {s s' e}, R s s' → takes e = true → ∃ t t', sys.step s e = some t ∧
    sys.step s' e = some t' ∧ R (sys.after t) (sys.after t') ∧ shown t = shown t' ∧
      (shown t = true → view t = view t')
  left : ∀ {s s' e}, R s s' → takes e = false → ∃ t, sys.step s e = some t ∧
    R (sys.after t) s' ∧ shown t = false

/-- What is seen is not changed by the events that are left out. -/
theorem Overlooks.run_filter {β : Type} {R : State → State → Prop} {takes : Event → Bool}
    {shown : Step → Bool} {view : Step → β} (h : Overlooks sys R takes shown view) {s s' : State}
    (hR : R s s') (schedule : List Event) :
    ((sys.run s schedule).transitions.filter shown).map view =
      ((sys.run s' (schedule.filter takes)).transitions.filter shown).map view := by
  induction schedule generalizing s s' with
  | nil => rfl
  | cons e schedule ih =>
    cases he : takes e with
    | true =>
      obtain ⟨t, t', ht, ht', hafter, hshown, hview⟩ := h.taken hR he
      rw [List.filter_cons, if_pos he, run_cons_some ht, run_cons_some ht', List.filter_cons,
        List.filter_cons, ← hshown]
      split
      next hseen => rw [List.map_cons, List.map_cons, hview hseen, ih hafter]
      next => exact ih hafter
    | false =>
      obtain ⟨t, ht, hafter, hshown⟩ := h.left hR he
      rw [List.filter_cons, he, run_cons_some ht, List.filter_cons, hshown]
      exact ih hafter

end System

end ShadowTraffic
