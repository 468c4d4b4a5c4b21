import Mathlib.Logic.Function.Basic
import ShadowTraffic.Proofs.Scope.Projection
import ShadowTraffic.Proofs.Telemetry.Series

/-! # A scope stack as a table

The plain model of a scope stack has a line of three counts for every name a boundary could have,
and takes no line away. Frames come and go as attempts do, but nobody can tell: whatever is done
with a stack, in whatever order, is answered as the table answers it, and the stack left behind
stands for the table left behind.
-/

namespace ShadowTraffic

/-! ## The plain model -/

/-- What is open on one boundary. -/
structure Tally where
  entered : Bool := false
  skipped : Int := 0
  internalDepth : Int := 0
deriving DecidableEq

namespace Tally

def state (t : Tally) : ScopeState :=
  if t.entered = true ∨ 0 < t.internalDepth then .entered else .idle

def depth (t : Tally) : Int :=
  (if t.entered then 1 else 0) + t.skipped + t.internalDepth

def act (t : Tally) (b : String) : ScopeAction → ScopeAnswer × Tally
  | .tryEnter .boundary =>
    if t.entered then (.decided false, { t with skipped := t.skipped + 1 })
    else (.decided true, { t with entered := true })
  | .tryEnter .internal => (.decided true, { t with internalDepth := t.internalDepth + 1 })
  | .canLeave .boundary =>
    if 0 < t.skipped then (.decided false, { t with skipped := t.skipped - 1 })
    else (.decided true, t)
  | .canLeave .internal => (.decided true, t)
  | .leave .boundary =>
    if t.entered then (.done, { t with entered := false }) else (.refused ⟨b⟩, t)
  | .leave .internal =>
    if 0 < t.internalDepth then (.done, { t with internalDepth := t.internalDepth - 1 })
    else (.refused ⟨b⟩, t)
  | .releaseSkipped =>
    if 0 < t.skipped then (.done, { t with skipped := t.skipped - 1 }) else (.done, t)
  | .state => (.inState t.state, t)
  | .depth => (.atDepth t.depth.toNat, t)

end Tally

/-- A line for every name. -/
abbrev Tallies := String → Tally

/-- One action carried out on the table. -/
structure TallyUse where
  answer : ScopeAnswer
  after : Tallies

namespace Tallies

def use (m : Tallies) (b : String) (a : ScopeAction) : TallyUse where
  answer := ((m b).act b a).1
  after := Function.update m b ((m b).act b a).2

def system : System Tallies (String × ScopeAction) TallyUse where
  step m e := some (m.use e.1 e.2)
  after u := u.after

def run (schedule : List (String × ScopeAction)) : Run Tallies TallyUse :=
  system.run (fun _ => {}) schedule

theorem run_cons (m : Tallies) (e : String × ScopeAction)
    (schedule : List (String × ScopeAction)) :
    system.run m (e :: schedule) =
      ⟨(system.run (m.use e.1 e.2).after schedule).final,
        m.use e.1 e.2 :: (system.run (m.use e.1 e.2).after schedule).transitions⟩ := rfl

end Tallies

/-! ## Stacks with metrics -/

/-- What an action on a stack reports and counts. -/
def Scopes.reports (s : Scopes) (b : String) : ScopeAction → List Effect
  | .tryEnter policy =>
    if (s.tryEnter b policy).1 then []
    else [.noticed (.reentrantSkipped b ((s.tryEnter b policy).2.frame b).skipped)]
  | .leave policy => (s.exit ⟨b, policy, true⟩).2
  | .releaseSkipped => (s.exit ⟨b, .boundary, false⟩).2
  | .canLeave _ | .state | .depth => []

/-- How the attempt of a ticket ends. -/
def Ticket.ending (t : Ticket) : ScopeAction :=
  if t.entered then .leave t.policy else .releaseSkipped

/-- Dropping a ticket is one of the actions. -/
theorem Scopes.exit_eq_act (s : Scopes) (t : Ticket) :
    s.exit t = ((s.act t.boundary t.ending).2, s.reports t.boundary t.ending) := by
  obtain ⟨b, policy, entered⟩ := t
  cases entered with
  | false => rfl
  | true =>
    simp only [Ticket.ending, if_true, act, reports, exit, drop]
    cases s.leave b policy <;> rfl

/-- A stack, and the metrics that its misuse is counted in. -/
structure CountedScopes where
  scopes : Scopes := {}
  metrics : Metrics := {}

/-- One action carried out on a stack. -/
structure ScopeUse where
  before : CountedScopes
  boundary : String
  action : ScopeAction
  answer : ScopeAnswer
  after : CountedScopes

namespace CountedScopes

def use (s : CountedScopes) (b : String) (a : ScopeAction) : ScopeUse where
  before := s
  boundary := b
  action := a
  answer := (s.scopes.act b a).1
  after := ⟨(s.scopes.act b a).2, (s.scopes.reports b a).foldl Metrics.record s.metrics⟩

def system : System CountedScopes (String × ScopeAction) ScopeUse where
  step s e := some (s.use e.1 e.2)
  after u := u.after

/-- A new stack is used; the metrics may be others' as well. -/
def run (m : Metrics) (schedule : List (String × ScopeAction)) : Run CountedScopes ScopeUse :=
  system.run ⟨{}, m⟩ schedule

end CountedScopes

/-! ## Lines of a stack -/

namespace Frame

def tally (f : Frame) : Tally where
  entered := f.entered
  skipped := f.skipped
  internalDepth := f.internalDepth

theorem state_tally (f : Frame) : f.tally.state = f.state := by
  simp [Tally.state, state, tally]

theorem depth_tally (f : Frame) : f.tally.depth = f.depth := by
  obtain ⟨entered, skipped, internalDepth⟩ := f
  cases entered <;> simp [Tally.depth, depth, tally]

/-- Where a count is taken down, it was not zero. -/
theorem tally_act (f : Frame) (b : String) (a : ScopeAction) :
    f.tally.act b a = ((f.act b a).1, (f.act b a).2.tally) := by
  have hdown : ∀ n : Nat, 0 < n → ((n - 1 : Nat) : Int) = (n : Int) - 1 := by omega
  cases a with
  | tryEnter policy =>
    cases policy with
    | internal => simp [Tally.act, act, tally]
    | boundary =>
      simp only [Tally.act, act]
      cases h : f.entered <;> simp [tally, h]
  | canLeave policy =>
    cases policy with
    | internal => rfl
    | boundary =>
      simp only [Tally.act, act]
      by_cases h : 0 < f.skipped
      · simp [tally, h, hdown]
      · simp [tally, h]
  | leave policy =>
    cases policy with
    | boundary =>
      simp only [Tally.act, act]
      cases h : f.entered <;> simp [tally, h]
    | internal =>
      simp only [Tally.act, act]
      by_cases h : 0 < f.internalDepth
      · simp [tally, h, hdown]
      · simp [tally, h]
  | releaseSkipped =>
    simp only [Tally.act, act]
    by_cases h : 0 < f.skipped
    · simp [tally, h, hdown]
    · simp [tally, Nat.eq_zero_of_not_pos h]
  | state => rw [Tally.act, act, state_tally]
  | depth => rw [Tally.act, act, depth_tally, Int.toNat_natCast]

end Frame

namespace Scopes

variable {s : Scopes} {b : String} {f : Frame}

/-- In a stack without idle frames every action keeps what it leaves of the frame. -/
theorem Tidy.act_eq (h : s.Tidy) (hf : s.frame b = f) (a : ScopeAction) :
    s.act b a = ((f.act b a).1, s.keep b (f.act b a).2) := by
  have hsame : s.keep b f = s := hf ▸ h.keep_frame b
  cases a with
  | tryEnter policy =>
    have henter : s.act b (.tryEnter policy) =
        (.decided (s.enter b policy).1.entered, (s.enter b policy).2) := rfl
    rw [henter]
    cases policy with
    | internal => rw [enter_internal hf, Frame.act]
    | boundary =>
      rw [Frame.act]
      split
      next hentered => rw [enter_skipped hf hentered]
      next hentered => rw [enter_accepted hf (by simpa using hentered)]
  | canLeave policy =>
    cases policy with
    | internal => rw [act, canLeave_internal, Frame.act, hsame]
    | boundary =>
      rw [act, canLeave_boundary hf, Frame.act]
      split <;> simp [hsame]
  | leave policy =>
    cases policy with
    | boundary =>
      rw [act, leave_boundary hf, Frame.act]
      by_cases hentered : f.entered = true <;> simp [hentered, hsame]
    | internal =>
      rw [act, leave_internal hf, Frame.act]
      by_cases hopen : f.internalDepth > 0 <;> simp [hopen, hsame]
  | releaseSkipped => rw [act, releaseSkipped_eq hf, Frame.act]
  | state => rw [act, state, hf, Frame.act, hsame]
  | depth => rw [act, depth, hf, Frame.act, hsame]

theorem Tidy.act (h : s.Tidy) (b : String) (a : ScopeAction) : (s.act b a).2.Tidy := by
  rw [h.act_eq rfl]
  exact h.keep

/-- The table that a stack stands for. -/
def tallies (s : Scopes) : Tallies :=
  fun b => (s.frame b).tally

/-- Each action does to the table what the plain model does. -/
theorem tallies_act (s : Scopes) (b : String) (a : ScopeAction) :
    (s.act b a).1 = ((s.tallies b).act b a).1 ∧
      (s.act b a).2.tallies = Function.update s.tallies b ((s.tallies b).act b a).2 := by
  have htells := tells_act (rfl : s.frame b = _) a
  have hline : (s.tallies b).act b a = _ := Frame.tally_act (s.frame b) b a
  rw [hline]
  refine ⟨htells.answer, funext fun other => ?_⟩
  rw [tallies, htells.frame, Function.update_apply]
  split <;> rfl

end Scopes

namespace CountedScopes

theorem run_cons (s : CountedScopes) (e : String × ScopeAction)
    (schedule : List (String × ScopeAction)) :
    system.run s (e :: schedule) =
      ⟨(system.run (s.use e.1 e.2).after schedule).final,
        s.use e.1 e.2 :: (system.run (s.use e.1 e.2).after schedule).transitions⟩ := rfl

/-- What is answered, and what is left, is what the table has. -/
theorem run_tallies (s : CountedScopes) (schedule : List (String × ScopeAction)) :
    (system.run s schedule).transitions.map (·.answer) =
        (Tallies.system.run s.scopes.tallies schedule).transitions.map (·.answer) ∧
      (system.run s schedule).final.scopes.tallies =
        (Tallies.system.run s.scopes.tallies schedule).final := by
  induction schedule generalizing s with
  | nil => exact ⟨rfl, rfl⟩
  | cons e schedule ih =>
    obtain ⟨hanswer, htallies⟩ := s.scopes.tallies_act e.1 e.2
    obtain ⟨hanswers, hfinal⟩ := ih (s.use e.1 e.2).after
    have hafter : (s.use e.1 e.2).after.scopes.tallies = _ := htallies
    rw [hafter] at hanswers hfinal
    rw [run_cons, Tallies.run_cons]
    exact ⟨congrArg₂ List.cons hanswer hanswers, hfinal⟩

theorem tidy_final (m : Metrics) (schedule : List (String × ScopeAction)) :
    (run m schedule).final.scopes.Tidy := by
  refine system.run_invariant (P := fun s => s.scopes.Tidy) (fun {s e u} h hstep => ?_)
    (fun b f hf => by cases hf) schedule
  cases hstep
  exact h.act e.1 e.2

end CountedScopes

end ShadowTraffic
