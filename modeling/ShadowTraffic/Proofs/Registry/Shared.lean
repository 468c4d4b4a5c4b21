import Mathlib.Logic.Function.Basic
import ShadowTraffic.Proofs.Registry.Slots
import ShadowTraffic.Proofs.Runs

/-! # A registry in use

Any number of callers share one registry. Each is idle or suspended inside one operation. A
schedule says, over and over, which caller goes on and with what: it starts an operation, its turn
at a slot is tried, its factory's build or its close has ended, or it goes away. The stretches of
different callers interleave in any order; an action that does not fit where its caller stands is
passed over, so every list of actions is a schedule.

Builds and closes may take any number of other callers' actions, and a schedule may end with some
of them under way. Asking by configuration is asking with the identity it resolves to.
-/

namespace ShadowTraffic

/-- An operation that is suspended. -/
inductive Ongoing where
  | fetch (q : Request) (phase : FetchPhase)
  /-- Its shadow closes. -/
  | invalidation (i : Identity) (m : Mediator)
  /-- A shadow closes, and the rest of the drained slots comes afterwards. -/
  | release (m : Mediator) (rest : List SlotId) (count : Nat)
deriving DecidableEq

/-- What an operation answers. -/
inductive Answer where
  | fetched (q : Request) (slot : SlotId)
  | looked (i : Identity) (found : Option SlotId)
  | invalidated (i : Identity) (found : Bool)
  | released (count : Nat)
deriving DecidableEq

/-- How a stretch ends. -/
inductive Outcome where
  | suspended (o : Ongoing)
  | returned (a : Answer)
  /-- The caller went away in the middle of an operation. -/
  | abandoned (o : Ongoing)
deriving DecidableEq

/-- What a caller does next. -/
inductive Action where
  | fetch (q : Request)
  | lookup (i : Identity)
  | invalidate (i : Identity)
  | release
  /-- A caller that waits for a slot is tried again. -/
  | resume
  /-- The caller's build has ended. -/
  | built (p : Provision)
  /-- The close that the caller waits for has ended. -/
  | closed (failure : Option ProvisionError)
  /-- The caller is cancelled, or what it runs panics. -/
  | abandon

namespace Outcome

/-- The operation that goes on. -/
def ongoing? : Outcome → Option Ongoing
  | suspended o => some o
  | _ => none

def ofFetch (q : Request) : FetchOutcome → Outcome
  | .pending phase => suspended (.fetch q phase)
  | .got slot => returned (.fetched q slot)

def ofInvalidate (i : Identity) : InvalidateOutcome → Outcome
  | .closing m => suspended (.invalidation i m)
  | .done found => returned (.invalidated i found)

def ofRelease : ReleaseOutcome → Outcome
  | .closing m rest count => suspended (.release m rest count)
  | .done count => returned (.released count)

end Outcome

/-- A stretch whose outcome is told differently. -/
def Stretch.map {α β : Type} (f : α → β) (st : Stretch α) : Stretch β where
  registry := st.registry
  outcome := f st.outcome
  effects := st.effects
  woken := st.woken

/-- A registry and where each of its callers stands; the spans are counted. -/
structure Shared where
  registry : Registry := {}
  ongoing : CallerId → Option Ongoing := fun _ => none
  spans : SpanId := 0

/-- One action carried out. -/
structure Transition where
  before : Shared
  caller : CallerId
  action : Action
  outcome : Outcome
  effects : List Effect
  after : Shared

/-- Who goes on with what, in order. -/
abbrev Schedule := List (CallerId × Action)

namespace Shared

/-- The stretch that an action begins, if it fits where the caller stands. -/
def stretch? (s : Shared) (c : CallerId) (a : Action) : Option (Stretch Outcome) :=
  match s.ongoing c, a with
  | none, .fetch q => some ((Fetch.start s.registry c q s.spans).map (.ofFetch q))
  | none, .lookup i =>
    some { registry := s.registry, outcome := .returned (.looked i (s.registry.lookup i)) }
  | none, .invalidate i => some ((Invalidate.start s.registry i).map (.ofInvalidate i))
  | none, .release => some ((Release.start s.registry s.spans).map .ofRelease)
  | some (.fetch q (.waiting slot)), .resume =>
    some ((Fetch.resume s.registry c q s.spans slot).map (.ofFetch q))
  | some (.fetch q (.building slot span)), .built p =>
    some ((Fetch.built s.registry c q s.spans slot span p).map (.ofFetch q))
  | some (.fetch q (.closing _ m)), .closed failure =>
    some ((Fetch.closed s.registry c q s.spans m failure).map (.ofFetch q))
  | some (.fetch q phase), .abandon =>
    some ((Fetch.abandon s.registry c phase).map fun _ => .abandoned (.fetch q phase))
  | some (.invalidation i m), .closed failure =>
    some ((Invalidate.closed s.registry i m failure).map (.ofInvalidate i))
  | some (.invalidation i m), .abandon =>
    some { registry := s.registry, outcome := .abandoned (.invalidation i m) }
  | some (.release m rest count), .closed failure =>
    some ((Release.closed s.registry m rest count failure).map .ofRelease)
  | some (.release m rest count), .abandon =>
    some { registry := s.registry, outcome := .abandoned (.release m rest count) }
  | _, _ => none

/-- What a stretch of a caller leaves. -/
def afterStretch (s : Shared) (c : CallerId) (st : Stretch Outcome) : Shared where
  registry := st.registry
  ongoing := Function.update s.ongoing c st.outcome.ongoing?
  spans := s.spans + 1

/-- Carries out an action. -/
def step (s : Shared) (c : CallerId) (a : Action) : Option Transition :=
  (s.stretch? c a).map fun st =>
    { before := s
      caller := c
      action := a
      outcome := st.outcome
      effects := st.effects
      after := s.afterStretch c st }

def system : System Shared (CallerId × Action) Transition where
  step s e := s.step e.1 e.2
  after t := t.after

/-- Carries out a schedule. -/
def run (s : Shared) (schedule : Schedule) : Run Shared Transition :=
  system.run s schedule

/-! ## Stretches -/

/-- The stretches that can be taken, one rule for each place a caller can stand at and each action
that fits there. -/
inductive Takes (s : Shared) (c : CallerId) : Action → Stretch Outcome → Prop
  | fetch (q : Request) (idle : s.ongoing c = none) :
      Takes s c (.fetch q) ((Fetch.start s.registry c q s.spans).map (.ofFetch q))
  | lookup (i : Identity) (idle : s.ongoing c = none) :
      Takes s c (.lookup i)
        { registry := s.registry, outcome := .returned (.looked i (s.registry.lookup i)) }
  | invalidate (i : Identity) (idle : s.ongoing c = none) :
      Takes s c (.invalidate i) ((Invalidate.start s.registry i).map (.ofInvalidate i))
  | release (idle : s.ongoing c = none) :
      Takes s c .release ((Release.start s.registry s.spans).map .ofRelease)
  | resume {q : Request} {slot : SlotId} (here : s.ongoing c = some (.fetch q (.waiting slot))) :
      Takes s c .resume ((Fetch.resume s.registry c q s.spans slot).map (.ofFetch q))
  | built {q : Request} {slot : SlotId} {span : SpanId} (p : Provision)
      (here : s.ongoing c = some (.fetch q (.building slot span))) :
      Takes s c (.built p) ((Fetch.built s.registry c q s.spans slot span p).map (.ofFetch q))
  | closed {q : Request} {slot : SlotId} {m : Mediator} (failure : Option ProvisionError)
      (here : s.ongoing c = some (.fetch q (.closing slot m))) :
      Takes s c (.closed failure) ((Fetch.closed s.registry c q s.spans m failure).map (.ofFetch q))
  | abandon {q : Request} {phase : FetchPhase} (here : s.ongoing c = some (.fetch q phase)) :
      Takes s c .abandon
        ((Fetch.abandon s.registry c phase).map fun _ => .abandoned (.fetch q phase))
  | invalidated {i : Identity} {m : Mediator} (failure : Option ProvisionError)
      (here : s.ongoing c = some (.invalidation i m)) :
      Takes s c (.closed failure)
        ((Invalidate.closed s.registry i m failure).map (.ofInvalidate i))
  | abandonInvalidation {i : Identity} {m : Mediator}
      (here : s.ongoing c = some (.invalidation i m)) :
      Takes s c .abandon
        { registry := s.registry, outcome := .abandoned (.invalidation i m) }
  | released {m : Mediator} {rest : List SlotId} {count : Nat} (failure : Option ProvisionError)
      (here : s.ongoing c = some (.release m rest count)) :
      Takes s c (.closed failure)
        ((Release.closed s.registry m rest count failure).map .ofRelease)
  | abandonRelease {m : Mediator} {rest : List SlotId} {count : Nat}
      (here : s.ongoing c = some (.release m rest count)) :
      Takes s c .abandon
        { registry := s.registry, outcome := .abandoned (.release m rest count) }

theorem takes_of_stretch? {s : Shared} {c : CallerId} {a : Action} {st : Stretch Outcome}
    (h : s.stretch? c a = some st) : Takes s c a st := by
  unfold stretch? at h
  split at h
  case h_13 => exact absurd h nofun
  all_goals
    cases h
    constructor <;> assumption

theorem Takes.fetch_outcome {s : Shared} {c : CallerId} {a : Action} {st : Stretch Outcome}
    {q : Request} (ht : Takes s c a st)
    (hq : a = .fetch q ∨ ∃ phase, s.ongoing c = some (.fetch q phase)) :
    (∃ o, st.outcome = .ofFetch q o) ∨ ∃ phase, st.outcome = .abandoned (.fetch q phase) := by
  rcases hq with rfl | ⟨phase, hongoing⟩
  · cases ht with
    | fetch q idle => exact .inl ⟨_, rfl⟩
  · cases ht
    case resume here =>
      rw [hongoing] at here
      cases here
      exact .inl ⟨_, rfl⟩
    case built here =>
      rw [hongoing] at here
      cases here
      exact .inl ⟨_, rfl⟩
    case closed here =>
      rw [hongoing] at here
      cases here
      exact .inl ⟨_, rfl⟩
    case abandon here =>
      rw [hongoing] at here
      cases here
      exact .inr ⟨phase, rfl⟩
    all_goals simp_all

/-! ## Transitions -/

/-- A transition records the stretch that was taken where it started. -/
theorem step_spec {s : Shared} {c : CallerId} {a : Action} {t : Transition}
    (h : s.step c a = some t) :
    t.before = s ∧ t.caller = c ∧ t.action = a ∧
      ∃ st, Takes s c a st ∧ t.outcome = st.outcome ∧ t.after = s.afterStretch c st := by
  unfold step at h
  cases hst : s.stretch? c a with
  | none => simp [hst] at h
  | some st =>
    simp only [hst, Option.map_some, Option.some.injEq] at h
    subst h
    exact ⟨rfl, rfl, rfl, st, takes_of_stretch? hst, rfl, rfl⟩

theorem step_ongoing {s : Shared} {c d : CallerId} {a : Action} {t : Transition}
    (h : s.step c a = some t) (hne : d ≠ c) : t.after.ongoing d = s.ongoing d := by
  obtain ⟨-, -, -, st, -, -, hafter⟩ := step_spec h
  simp [hafter, afterStretch, hne]

/-- A caller that asks or has asked for a mediator is suspended, is given one, or goes away. -/
theorem step_fetch {s : Shared} {c : CallerId} {a : Action} {t : Transition} {q : Request}
    (h : s.step c a = some t)
    (hq : a = .fetch q ∨ ∃ phase, s.ongoing c = some (.fetch q phase)) :
    (∃ phase, t.outcome = .suspended (.fetch q phase) ∧
        t.after.ongoing c = some (.fetch q phase)) ∨
      (∃ slot, t.outcome = .returned (.fetched q slot)) ∨
      ∃ phase, t.outcome = .abandoned (.fetch q phase) := by
  obtain ⟨-, -, -, st, htakes, hout, hafter⟩ := step_spec h
  rw [hout, hafter]
  rcases htakes.fetch_outcome hq with ⟨o, ho⟩ | ⟨phase, ho⟩
  · cases o with
    | pending phase =>
      refine .inl ⟨phase, ho, ?_⟩
      simp [afterStretch, ho, Outcome.ofFetch, Outcome.ongoing?]
    | got slot => exact .inr (.inl ⟨slot, ho⟩)
  · exact .inr (.inr ⟨phase, ho⟩)

/-! ## Runs -/

theorem run_cons_none {s : Shared} {c : CallerId} {a : Action} (h : s.step c a = none)
    (rest : Schedule) : s.run ((c, a) :: rest) = s.run rest :=
  System.run_cons_none h rest

theorem run_cons_some {s : Shared} {c : CallerId} {a : Action} {t : Transition}
    (h : s.step c a = some t) (rest : Schedule) :
    s.run ((c, a) :: rest) = ⟨(t.after.run rest).final, t :: (t.after.run rest).transitions⟩ :=
  System.run_cons_some h rest

theorem run_append (s : Shared) (first second : Schedule) :
    s.run (first ++ second) =
      ⟨((s.run first).final.run second).final,
        (s.run first).transitions ++ ((s.run first).final.run second).transitions⟩ :=
  System.run_append s first second

theorem run_split {s : Shared} {schedule : Schedule} {t : Transition}
    {earlier later : List Transition} (h : (s.run schedule).transitions = earlier ++ t :: later) :
    ∃ first e rest, schedule = first ++ e :: rest ∧ (s.run first).transitions = earlier ∧
      (s.run first).final.step e.1 e.2 = some t ∧
      t.after.run rest = ⟨(s.run schedule).final, later⟩ :=
  System.run_split h

theorem run_mem {s : Shared} {schedule : Schedule} {t : Transition}
    (h : t ∈ (s.run schedule).transitions) :
    ∃ first e rest, schedule = first ++ e :: rest ∧ (s.run first).final.step e.1 e.2 = some t :=
  System.run_mem h

theorem run_after {s : Shared} {schedule : Schedule} {t : Transition}
    (h : t ∈ (s.run schedule).transitions) :
    ∃ first rest, schedule = first ++ rest ∧ (s.run first).final = t.after :=
  System.run_after h

theorem countP_cons_toNat (p : Transition → Bool) (t : Transition) (l : List Transition) :
    (t :: l).countP p = l.countP p + (p t).toNat := by
  rw [List.countP_cons]
  cases p t <;> rfl

/-- A caller stays where it is until its turn comes. -/
theorem run_ongoing {s : Shared} {schedule : Schedule} {c : CallerId}
    (h : ∀ e ∈ schedule, e.1 ≠ c) : (s.run schedule).final.ongoing c = s.ongoing c := by
  induction schedule generalizing s with
  | nil => rfl
  | cons e schedule ih =>
    have hne : e.1 ≠ c := h e List.mem_cons_self
    have hrest := fun e' he' => h e' (List.mem_cons_of_mem _ he')
    cases hstep : s.step e.1 e.2 with
    | none => rw [run_cons_none hstep, ih hrest]
    | some t =>
      obtain ⟨-, -, -, st, -, -, hafter⟩ := step_spec hstep
      rw [run_cons_some hstep, ih hrest, hafter]
      simp [afterStretch, hne.symm]

end Shared

end ShadowTraffic
