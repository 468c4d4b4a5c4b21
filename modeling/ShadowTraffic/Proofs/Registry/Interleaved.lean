import ShadowTraffic.Proofs.Registry.Shared
import ShadowTraffic.Proofs.Registry.Stretches

/-! # Releases that are interleaved

A release closes what it took out of the map one slot after the other, and others may go on in
between even where no shadow has to be closed. So here a release goes on entry by entry, at a step
of its caller each; all other stretches are whole. Taken without a break the steps of a release make
up its stretches, so every run of a registry in use is such a run too.
-/

namespace ShadowTraffic

/-- An operation between two steps of its caller. -/
inductive Underway where
  | fetch (q : Request) (phase : FetchPhase)
  | invalidation (i : Identity) (m : Mediator)
  /-- A release with entries to do, in the middle of none. -/
  | release (rest : List (String × SlotId)) (count : Nat)
  /-- The shadow at one of the entries closes. -/
  | closing (entry : String × SlotId) (m : Mediator) (rest : List (String × SlotId)) (count : Nat)

/-- A registry and where each of its callers stands; the spans are counted. -/
structure Interleaved where
  registry : Registry := {}
  underway : CallerId → Option Underway := fun _ => none
  spans : SpanId := 0

namespace Interleaved

inductive Outcome where
  | suspended (o : Underway)
  | returned (a : Answer)
  | abandoned (o : Underway)

namespace Outcome

def underway? : Outcome → Option Underway
  | suspended o => some o
  | _ => none

def ofFetch (q : Request) : FetchOutcome → Outcome
  | .pending phase => suspended (.fetch q phase)
  | .got slot => returned (.fetched q slot)

def ofInvalidate (i : Identity) : InvalidateOutcome → Outcome
  | .closing m => suspended (.invalidation i m)
  | .done found => returned (.invalidated i found)

end Outcome

structure Transition where
  before : Interleaved
  caller : CallerId
  action : Action
  outcome : Outcome
  effects : List Effect
  after : Interleaved

/-- Takes everything out of the map. -/
def startRelease (r : Registry) (fresh : SpanId) : Stretch Outcome where
  registry := { r with slots := .empty }
  outcome := .suspended (.release r.slots.entries 0)
  effects := [.opened fresh (.component "registry")]

/-- A release goes on with the next entry, or ends. -/
def nextEntry (r : Registry) (count : Nat) : List (String × SlotId) → Stretch Outcome
  | [] =>
    (Release.drain r count []).map fun _ => .returned (.released count)
  | e :: rest =>
    match r.beginClose e.2 with
    | (.nothing, r) => { registry := r, outcome := .suspended (.release rest count) }
    | (.closed m, r) =>
      { registry := r
        outcome := .suspended (.release rest (count + 1))
        effects := closeEffects m none }
    | (.shadow m, r) => { registry := r, outcome := .suspended (.closing e m rest (count + 1)) }

/-- The stretch that an action begins, if it fits where the caller stands. -/
def stretch? (s : Interleaved) (c : CallerId) (a : Action) : Option (Stretch Outcome) :=
  match s.underway c, a with
  | none, .fetch q => some ((Fetch.start s.registry c q s.spans).map (.ofFetch q))
  | none, .lookup i =>
    some { registry := s.registry, outcome := .returned (.looked i (s.registry.lookup i)) }
  | none, .invalidate i => some ((Invalidate.start s.registry i).map (.ofInvalidate i))
  | none, .release => some (startRelease s.registry s.spans)
  | some (.fetch q (.waiting slot)), .resume =>
    some ((Fetch.resume s.registry c q s.spans slot).map (.ofFetch q))
  | some (.fetch q (.building slot span)), .built p =>
    some ((Fetch.built s.registry c q s.spans slot span p).map (.ofFetch q))
  | some (.fetch q (.closing _ m)), .closed failure =>
    some ((Fetch.closed s.registry c q s.spans m failure).map (.ofFetch q))
  | some (.fetch q phase), .abandon =>
    some ((Fetch.abandon s.registry c phase).map fun _ => .abandoned (.fetch q phase))
  | some (.invalidation i m), .closed failure =>
    some ((Invalidate.closed s.registry i m failure).map (.ofInvalidate i))
  | some (.invalidation i m), .abandon =>
    some { registry := s.registry, outcome := .abandoned (.invalidation i m) }
  | some (.release rest count), .resume => some (nextEntry s.registry count rest)
  | some (.closing _ m rest count), .closed failure =>
    some { registry := s.registry
           outcome := .suspended (.release rest count)
           effects := closeEffects m failure }
  | some (.release rest count), .abandon =>
    some { registry := s.registry, outcome := .abandoned (.release rest count) }
  | some (.closing e m rest count), .abandon =>
    some { registry := s.registry, outcome := .abandoned (.closing e m rest count) }
  | _, _ => none

/-- A release that goes on takes no number for a span. -/
def numbers (o : Option Underway) (a : Action) : Nat :=
  match o, a with
  | some (.release ..), .resume => 0
  | _, _ => 1

/-- What a stretch of a caller leaves. -/
def afterStretch (s : Interleaved) (c : CallerId) (a : Action) (st : Stretch Outcome) :
    Interleaved where
  registry := st.registry
  underway := Function.update s.underway c st.outcome.underway?
  spans := s.spans + numbers (s.underway c) a

/-- Carries out an action. -/
def step (s : Interleaved) (c : CallerId) (a : Action) : Option Transition :=
  (s.stretch? c a).map fun st =>
    { before := s
      caller := c
      action := a
      outcome := st.outcome
      effects := st.effects
      after := s.afterStretch c a st }

def system : System Interleaved (CallerId × Action) Transition where
  step s e := s.step e.1 e.2
  after t := t.after

/-- Carries out a schedule. -/
def run (s : Interleaved) (schedule : Schedule) : Run Interleaved Transition :=
  system.run s schedule

/-! ## Steps -/

/-- The stretches that can be taken, one rule for each place a caller can stand at and each action
that fits there. -/
inductive Takes (s : Interleaved) (c : CallerId) : Action → Stretch Outcome → Prop
  | fetch (q : Request) (idle : s.underway c = none) :
      Takes s c (.fetch q) ((Fetch.start s.registry c q s.spans).map (.ofFetch q))
  | lookup (i : Identity) (idle : s.underway c = none) :
      Takes s c (.lookup i)
        { registry := s.registry, outcome := .returned (.looked i (s.registry.lookup i)) }
  | invalidate (i : Identity) (idle : s.underway c = none) :
      Takes s c (.invalidate i) ((Invalidate.start s.registry i).map (.ofInvalidate i))
  | release (idle : s.underway c = none) :
      Takes s c .release (startRelease s.registry s.spans)
  | resume {q : Request} {slot : SlotId} (here : s.underway c = some (.fetch q (.waiting slot))) :
      Takes s c .resume ((Fetch.resume s.registry c q s.spans slot).map (.ofFetch q))
  | built {q : Request} {slot : SlotId} {span : SpanId} (p : Provision)
      (here : s.underway c = some (.fetch q (.building slot span))) :
      Takes s c (.built p) ((Fetch.built s.registry c q s.spans slot span p).map (.ofFetch q))
  | closed {q : Request} {slot : SlotId} {m : Mediator} (failure : Option ProvisionError)
      (here : s.underway c = some (.fetch q (.closing slot m))) :
      Takes s c (.closed failure) ((Fetch.closed s.registry c q s.spans m failure).map (.ofFetch q))
  | abandon {q : Request} {phase : FetchPhase} (here : s.underway c = some (.fetch q phase)) :
      Takes s c .abandon
        ((Fetch.abandon s.registry c phase).map fun _ => .abandoned (.fetch q phase))
  | invalidated {i : Identity} {m : Mediator} (failure : Option ProvisionError)
      (here : s.underway c = some (.invalidation i m)) :
      Takes s c (.closed failure)
        ((Invalidate.closed s.registry i m failure).map (.ofInvalidate i))
  | abandonInvalidation {i : Identity} {m : Mediator}
      (here : s.underway c = some (.invalidation i m)) :
      Takes s c .abandon
        { registry := s.registry, outcome := .abandoned (.invalidation i m) }
  | next {rest : List (String × SlotId)} {count : Nat}
      (here : s.underway c = some (.release rest count)) :
      Takes s c .resume (nextEntry s.registry count rest)
  | released {e : String × SlotId} {m : Mediator} {rest : List (String × SlotId)} {count : Nat}
      (failure : Option ProvisionError) (here : s.underway c = some (.closing e m rest count)) :
      Takes s c (.closed failure)
        { registry := s.registry
          outcome := .suspended (.release rest count)
          effects := closeEffects m failure }
  | abandonRelease {rest : List (String × SlotId)} {count : Nat}
      (here : s.underway c = some (.release rest count)) :
      Takes s c .abandon { registry := s.registry, outcome := .abandoned (.release rest count) }
  | abandonClosing {e : String × SlotId} {m : Mediator} {rest : List (String × SlotId)}
      {count : Nat} (here : s.underway c = some (.closing e m rest count)) :
      Takes s c .abandon
        { registry := s.registry, outcome := .abandoned (.closing e m rest count) }

theorem takes_of_stretch? {s : Interleaved} {c : CallerId} {a : Action} {st : Stretch Outcome}
    (h : s.stretch? c a = some st) : Takes s c a st := by
  unfold stretch? at h
  split at h
  case h_15 => exact absurd h nofun
  all_goals
    cases h
    constructor <;> assumption

theorem Takes.stretch?_eq {s : Interleaved} {c : CallerId} {a : Action} {st : Stretch Outcome}
    (h : Takes s c a st) : s.stretch? c a = some st := by
  cases h with
  | @abandon q phase here => cases phase <;> simp only [stretch?, here]
  | _ => simp only [stretch?, *]

theorem Takes.step_eq {s : Interleaved} {c : CallerId} {a : Action} {st : Stretch Outcome}
    (h : Takes s c a st) : s.step c a = some
      { before := s
        caller := c
        action := a
        outcome := st.outcome
        effects := st.effects
        after := s.afterStretch c a st } := by
  rw [step, h.stretch?_eq]
  rfl

/-- A transition records the stretch that was taken where it started. -/
theorem step_spec {s : Interleaved} {c : CallerId} {a : Action} {t : Transition}
    (h : s.step c a = some t) :
    t.before = s ∧ t.caller = c ∧ t.action = a ∧
      ∃ st, Takes s c a st ∧ t.outcome = st.outcome ∧ t.effects = st.effects ∧
        t.after = s.afterStretch c a st := by
  unfold step at h
  cases hst : s.stretch? c a with
  | none => simp [hst] at h
  | some st =>
    simp only [hst, Option.map_some, Option.some.injEq] at h
    subst h
    exact ⟨rfl, rfl, rfl, st, takes_of_stretch? hst, rfl, rfl, rfl⟩

/-- A release begins to close what the next entry leads to, and waits if that has a shadow. -/
theorem nextEntry_cons (r : Registry) (count : Nat) (e : String × SlotId)
    (rest : List (String × SlotId)) :
    let st := nextEntry r count (e :: rest)
    let count' := count + (r.beginClose e.2).1.count
    st.registry = (r.beginClose e.2).2 ∧ st.outcome = .suspended
      (match (r.beginClose e.2).1.waits? with
        | none => .release rest count'
        | some m => .closing e m rest count') := by
  dsimp only
  rw [nextEntry]
  cases hclose : r.beginClose e.2 with
  | mk closing r' =>
    cases closing with
    | nothing => exact ⟨rfl, rfl⟩
    | closed m => exact ⟨rfl, rfl⟩
    | shadow m => exact ⟨rfl, rfl⟩

theorem run_cons_none {s : Interleaved} {c : CallerId} {a : Action} (h : s.step c a = none)
    (rest : Schedule) : s.run ((c, a) :: rest) = s.run rest :=
  System.run_cons_none h rest

theorem run_cons_some {s : Interleaved} {c : CallerId} {a : Action} {t : Transition}
    (h : s.step c a = some t) (rest : Schedule) :
    s.run ((c, a) :: rest) = ⟨(t.after.run rest).final, t :: (t.after.run rest).transitions⟩ :=
  System.run_cons_some h rest

theorem run_append (s : Interleaved) (first second : Schedule) :
    s.run (first ++ second) =
      ⟨((s.run first).final.run second).final,
        (s.run first).transitions ++ ((s.run first).final.run second).transitions⟩ :=
  System.run_append s first second

end Interleaved

/-! ## Whole stretches -/

def Outcome.answer? : Outcome → Option Answer
  | .returned a => some a
  | _ => none

/-- The answer that a caller is given, and who it is. -/
def Transition.answer? (t : Transition) : Option (CallerId × Answer) :=
  t.outcome.answer?.map fun a => (t.caller, a)

namespace Interleaved

def Outcome.answer? : Outcome → Option Answer
  | .returned a => some a
  | _ => none

def Transition.answer? (t : Transition) : Option (CallerId × Answer) :=
  t.outcome.answer?.map fun a => (t.caller, a)

/-- A caller stands where a caller of whole stretches does: if it releases, a shadow closes. -/
inductive Same : Option Ongoing → Option Underway → Prop
  | idle : Same none none
  | fetch (q : Request) (phase : FetchPhase) : Same (some (.fetch q phase)) (some (.fetch q phase))
  | invalidation (i : Identity) (m : Mediator) :
      Same (some (.invalidation i m)) (some (.invalidation i m))
  | release (e : String × SlotId) (m : Mediator) (rest : List (String × SlotId)) (count : Nat) :
      Same (some (.release m (rest.map (·.2)) count)) (some (.closing e m rest count))

/-- Two stretches end in the same way. -/
structure Agree (o : ShadowTraffic.Outcome) (o' : Outcome) : Prop where
  same : Same o.ongoing? o'.underway?
  answer : o'.answer? = o.answer?

theorem agree_ofFetch (q : Request) (o : FetchOutcome) :
    Agree (ShadowTraffic.Outcome.ofFetch q o) (Outcome.ofFetch q o) := by
  cases o with
  | pending phase => exact ⟨.fetch q phase, rfl⟩
  | got slot => exact ⟨.idle, rfl⟩

theorem agree_ofInvalidate (i : Identity) (o : InvalidateOutcome) :
    Agree (ShadowTraffic.Outcome.ofInvalidate i o) (Outcome.ofInvalidate i o) := by
  cases o with
  | closing m => exact ⟨.invalidation i m, rfl⟩
  | done found => exact ⟨.idle, rfl⟩

/-- A state in the middle of no release but where a shadow closes. -/
structure Whole (s : Shared) (u : Interleaved) : Prop where
  registry : u.registry = s.registry
  spans : u.spans = s.spans
  callers : ∀ c, Same (s.ongoing c) (u.underway c)

variable {s : Shared} {u : Interleaved} {c : CallerId} {a : Action}

/-- The entries that a release took out of the map, one after the other, up to the next shadow or
to the end. -/
theorem run_entries {u : Interleaved} {entries : List (String × SlotId)} {count : Nat}
    (h : u.underway c = some (.release entries count)) :
    let st := Release.drain u.registry count (entries.map (·.2))
    let out := ShadowTraffic.Outcome.ofRelease st.outcome
    ∃ n o, (u.run (List.replicate n (c, .resume))).final =
        { registry := st.registry, underway := Function.update u.underway c o, spans := u.spans } ∧
      Same out.ongoing? o ∧
      (u.run (List.replicate n (c, .resume))).transitions.filterMap (·.answer?) =
        (out.answer?.map fun a => (c, a)).toList := by
  induction entries generalizing u count with
  | nil =>
    have hst : Takes u c .resume (nextEntry u.registry count []) := .next h
    refine ⟨1, none, ?_, .idle, ?_⟩
    · rw [List.replicate_one, run_cons_some hst.step_eq]
      simp [run, System.run, afterStretch, numbers, h, nextEntry, Stretch.map, Outcome.underway?]
    · rw [List.replicate_one, run_cons_some hst.step_eq]
      rfl
  | cons e rest ih =>
    have hst : Takes u c .resume (nextEntry u.registry count (e :: rest)) := .next h
    obtain ⟨hreg, hout⟩ := nextEntry_cons u.registry count e rest
    have hafter (o : Underway)
        (ho : (nextEntry u.registry count (e :: rest)).outcome = .suspended o) :
        u.afterStretch c .resume (nextEntry u.registry count (e :: rest)) =
          { registry := (u.registry.beginClose e.2).2
            underway := Function.update u.underway c (some o)
            spans := u.spans } := by
      simp only [afterStretch, hreg, ho, numbers, h, Outcome.underway?, Nat.add_zero]
    rw [List.map_cons]
    rcases Release.drain_counts u.registry count e.2 (rest.map (·.2)) with
      ⟨hwaits, hdrain, hend⟩ | ⟨m, hwaits, hdrain, hend⟩
    · -- nothing to wait for: the other entries follow
      rw [hwaits] at hout
      obtain ⟨n, o, hfinal, hsame, hanswers⟩ :=
        ih (u := u.afterStretch c .resume (nextEntry u.registry count (e :: rest)))
          (by rw [hafter _ hout]; exact Function.update_self _ _ _)
      rw [hafter _ hout] at hfinal hsame hanswers
      refine ⟨n + 1, o, ?_, ?_, ?_⟩
      · rw [List.replicate_succ, run_cons_some hst.step_eq, hafter _ hout, hfinal, hdrain]
        simp
      · rw [hend]
        exact hsame
      · rw [List.replicate_succ, run_cons_some hst.step_eq, hafter _ hout, hend,
          List.filterMap_cons]
        rw [Transition.answer?, hout]
        exact hanswers
    · rw [hwaits] at hout
      refine ⟨1, some (.closing e m rest (count + (u.registry.beginClose e.2).1.count)), ?_, ?_, ?_⟩
      · rw [List.replicate_one, run_cons_some hst.step_eq, hafter _ hout, hdrain]
        rfl
      · rw [hend]
        exact .release e m rest _
      · rw [List.replicate_one, run_cons_some hst.step_eq, hend, List.filterMap_cons]
        rw [Transition.answer?, hout]
        rfl

theorem Whole.numbers_eq (h : Whole s u) (c : CallerId) (a : Action) :
    numbers (u.underway c) a = 1 := by
  have hc := h.callers c
  generalize s.ongoing c = o, u.underway c = o' at hc
  cases hc <;> rfl

/-- A stretch that is whole in itself. -/
theorem Whole.single {st : Stretch ShadowTraffic.Outcome} {st' : Stretch Outcome}
    {t : ShadowTraffic.Transition} (h : Whole s u) (hcaller : t.caller = c)
    (hout : t.outcome = st.outcome) (hafter : t.after = s.afterStretch c st)
    (hst : Takes u c a st') (hreg : st'.registry = st.registry)
    (hagree : Agree st.outcome st'.outcome) :
    Whole t.after (u.run [(c, a)]).final ∧
      (u.run [(c, a)]).transitions.filterMap (·.answer?) = t.answer?.toList := by
  rw [run_cons_some hst.step_eq, hafter]
  constructor
  · constructor
    · exact hreg
    · show u.spans + numbers (u.underway c) a = s.spans + 1
      rw [h.numbers_eq, h.spans]
    · intro d
      by_cases hd : d = c
      · subst hd
        simpa [run, System.run, afterStretch, Shared.afterStretch] using hagree.same
      · simpa [run, System.run, afterStretch, Shared.afterStretch, hd] using h.callers d
  · rw [ShadowTraffic.Transition.answer?, hout, ← hagree.answer, hcaller, List.filterMap_cons]
    cases hanswer : st'.outcome.answer? with
    | none => simp [Transition.answer?, hanswer, run, System.run]
    | some answer => simp [Transition.answer?, hanswer, run, System.run]

/-- A release that takes the entries of the map, or goes on with the rest after a close. -/
theorem Whole.release {st : Stretch ReleaseOutcome} {st' : Stretch Outcome}
    {t : ShadowTraffic.Transition} {entries : List (String × SlotId)} {count : Nat}
    (h : Whole s u) (hcaller : t.caller = c)
    (hout : t.outcome = .ofRelease st.outcome)
    (hafter : t.after = s.afterStretch c (st.map .ofRelease)) (hst : Takes u c a st')
    (hbegun : st'.outcome = .suspended (.release entries count))
    (hreg : st.registry = (Release.drain st'.registry count (entries.map (·.2))).registry)
    (hend : st.outcome = (Release.drain st'.registry count (entries.map (·.2))).outcome) :
    ∃ n, Whole t.after (u.run ((c, a) :: List.replicate n (c, .resume))).final ∧
      (u.run ((c, a) :: List.replicate n (c, .resume))).transitions.filterMap (·.answer?) =
        t.answer?.toList := by
  have hunderway : (u.afterStretch c a st').underway c = some (.release entries count) := by
    simp [afterStretch, hbegun, Outcome.underway?]
  obtain ⟨n, o, hfinal, hsame, hanswers⟩ := run_entries hunderway
  refine ⟨n, ?_, ?_⟩
  · rw [run_cons_some hst.step_eq, hfinal, hafter]
    constructor
    · exact hreg.symm
    · show u.spans + numbers (u.underway c) a = s.spans + 1
      rw [h.numbers_eq, h.spans]
    · intro d
      by_cases hd : d = c
      · subst hd
        have hagree : Same (ShadowTraffic.Outcome.ofRelease st.outcome).ongoing? o := by
          rw [hend]
          exact hsame
        simpa [Shared.afterStretch, Stretch.map] using hagree
      · simpa [afterStretch, Shared.afterStretch, hd] using h.callers d
  · rw [run_cons_some hst.step_eq, List.filterMap_cons, Transition.answer?, hbegun,
      ShadowTraffic.Transition.answer?, hout, hcaller, hend]
    exact hanswers

/-- Each stretch is a step, and if it is one of a release, some steps in a row. -/
theorem Whole.step {t : ShadowTraffic.Transition} (h : Whole s u) (ht : s.step c a = some t) :
    ∃ n, Whole t.after (u.run ((c, a) :: List.replicate n (c, .resume))).final ∧
      (u.run ((c, a) :: List.replicate n (c, .resume))).transitions.filterMap (·.answer?) =
        t.answer?.toList := by
  obtain ⟨-, hcaller, -, st, htakes, hout, hafter⟩ := Shared.step_spec ht
  obtain ⟨r, underway, spans⟩ := u
  obtain ⟨hreg, hspans, -⟩ := id h
  cases hreg
  cases hspans
  have hc : Same (s.ongoing c) (underway c) := h.callers c
  generalize hu : underway c = o at hc
  cases htakes with
  | fetch q idle =>
    rw [idle] at hc
    cases hc
    exact ⟨0, h.single hcaller hout hafter (.fetch q hu) rfl (agree_ofFetch q _)⟩
  | lookup i idle =>
    rw [idle] at hc
    cases hc
    exact ⟨0, h.single hcaller hout hafter (.lookup i hu) rfl ⟨.idle, rfl⟩⟩
  | invalidate i idle =>
    rw [idle] at hc
    cases hc
    exact ⟨0, h.single hcaller hout hafter (.invalidate i hu) rfl
      (agree_ofInvalidate i _)⟩
  | release idle =>
    rw [idle] at hc
    cases hc
    exact h.release hcaller hout hafter (.release hu) rfl rfl rfl
  | @resume q slot here =>
    rw [here] at hc
    cases hc
    exact ⟨0, h.single hcaller hout hafter (.resume hu) rfl (agree_ofFetch q _)⟩
  | @built q slot span p here =>
    rw [here] at hc
    cases hc
    exact ⟨0, h.single hcaller hout hafter (.built p hu) rfl (agree_ofFetch q _)⟩
  | @closed q slot m failure here =>
    rw [here] at hc
    cases hc
    exact ⟨0, h.single hcaller hout hafter (.closed failure hu) rfl (agree_ofFetch q _)⟩
  | abandon here =>
    rw [here] at hc
    cases hc
    exact ⟨0, h.single hcaller hout hafter (.abandon hu) rfl ⟨.idle, rfl⟩⟩
  | invalidated failure here =>
    rw [here] at hc
    cases hc
    exact ⟨0, h.single hcaller hout hafter (.invalidated failure hu) rfl ⟨.idle, rfl⟩⟩
  | abandonInvalidation here =>
    rw [here] at hc
    cases hc
    exact ⟨0, h.single hcaller hout hafter (.abandonInvalidation hu) rfl ⟨.idle, rfl⟩⟩
  | released failure here =>
    rw [here] at hc
    cases hc
    exact h.release hcaller hout hafter (.released failure hu) rfl rfl rfl
  | abandonRelease here =>
    rw [here] at hc
    cases hc
    exact ⟨0, h.single hcaller hout hafter (.abandonClosing hu) rfl ⟨.idle, rfl⟩⟩

/-- A run of whole stretches is a run whose releases are not interrupted between two shadows: it
leads to the same registry, by the same answers to the same callers. -/
theorem run_whole (schedule : Schedule) : ∃ steps : Schedule,
    (({} : Interleaved).run steps).final.registry =
        (({} : Shared).run schedule).final.registry ∧
      (({} : Interleaved).run steps).transitions.filterMap (·.answer?) =
        (({} : Shared).run schedule).transitions.filterMap (·.answer?) := by
  suffices hrun : ∀ (s : Shared) (u : Interleaved), Whole s u → ∃ steps : Schedule,
      Whole (s.run schedule).final (u.run steps).final ∧
        (u.run steps).transitions.filterMap (·.answer?) =
          (s.run schedule).transitions.filterMap (·.answer?) by
    obtain ⟨steps, hwhole, hanswers⟩ := hrun {} {} ⟨rfl, rfl, fun _ => .idle⟩
    exact ⟨steps, hwhole.registry, hanswers⟩
  induction schedule with
  | nil =>
    intro s u h
    exact ⟨[], h, rfl⟩
  | cons e schedule ih =>
    intro s u h
    cases hstep : s.step e.1 e.2 with
    | none =>
      rw [Shared.run_cons_none hstep]
      exact ih s u h
    | some t =>
      obtain ⟨n, hwhole, hanswer⟩ := h.step hstep
      obtain ⟨steps, hfinal, hanswers⟩ := ih _ _ hwhole
      refine ⟨(e.1, e.2) :: List.replicate n (e.1, .resume) ++ steps, ?_, ?_⟩
      · rw [run_append, Shared.run_cons_some hstep]
        exact hfinal
      · rw [run_append, List.filterMap_append, hanswer, hanswers, Shared.run_cons_some hstep,
          List.filterMap_cons]
        cases t.answer? <;> rfl

end Interleaved

end ShadowTraffic
