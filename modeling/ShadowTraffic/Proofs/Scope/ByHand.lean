import ShadowTraffic.Proofs.Scope.Standing
import ShadowTraffic.Proofs.Scope.Tickets

/-! # Exits by hand

Attempts on one scope stack that are all made by hand: each tries to enter, asks at some time
whether it has to leave, and leaves at some time if it was told to. Between these the others may do
anything. Whoever asks uses up a skipped attempt if there is one, so that the attempt which is told
to leave need not be the one that was accepted; but the counts come out even in every order. When
the innermost attempt always exits first, who is told to leave is who was accepted.
-/

namespace ShadowTraffic

/-- How far an attempt made by hand has come. -/
inductive ExitStage where
  /-- It has not asked whether to leave. -/
  | inside
  /-- It was told to leave, and has not left yet. -/
  | leaving
  /-- It was told not to leave. -/
  | released
  | left
deriving DecidableEq

structure ManualAttempt where
  /-- What was tried, and whether that was accepted. -/
  ticket : Ticket
  stage : ExitStage := .inside
deriving DecidableEq

namespace ManualAttempt

/-- Its exit has not come to an end. -/
def isOpen (a : ManualAttempt) : Bool :=
  a.stage == .inside || a.stage == .leaving

/-- Whether it has to leave, once it has asked. -/
def told? (a : ManualAttempt) : Option Bool :=
  match a.stage with
  | .inside => none
  | .leaving | .left => some true
  | .released => some false

/-- An accepted attempt under the boundary policy. -/
def isAccepted (a : ManualAttempt) : Bool :=
  a.ticket.policy == .boundary && a.ticket.entered

/-- An attempt under the boundary policy that was told to leave and has not left. -/
def isLeaving (a : ManualAttempt) : Bool :=
  a.ticket.policy == .boundary && a.stage == .leaving

/-- An attempt under the boundary policy that has left. -/
def hasLeft (a : ManualAttempt) : Bool :=
  a.ticket.policy == .boundary && a.stage == .left

def isOn (b : String) (a : ManualAttempt) : Bool :=
  a.ticket.boundary == b

end ManualAttempt

/-- A scope stack and all attempts that were made on it by hand, in the order they were made; the
place of an attempt is its number. -/
structure ManualAttempts where
  scopes : Scopes := {}
  attempts : List ManualAttempt := []

inductive ManualAction where
  | attempt (boundary : String) (policy : Policy)
  /-- An attempt asks whether it has to leave. -/
  | ask (n : Nat)
  | leave (n : Nat)

/-- One action carried out. -/
structure ManualStep where
  before : ManualAttempts
  action : ManualAction
  /-- Of an exit that does not match. -/
  failure : Option NotEntered := none
  after : ManualAttempts

namespace ManualAttempts

def step (s : ManualAttempts) (a : ManualAction) : Option ManualStep :=
  match a with
  | .attempt boundary policy =>
    let (entered, scopes) := s.scopes.tryEnter boundary policy
    let attempts := s.attempts ++ [{ ticket := ⟨boundary, policy, entered⟩ }]
    some { before := s, action := a, after := { scopes, attempts } }
  | .ask n =>
    match s.attempts[n]? with
    | some ⟨t, .inside⟩ =>
      let (mayLeave, scopes) := s.scopes.canLeave t.boundary t.policy
      let attempts := s.attempts.set n ⟨t, if mayLeave then .leaving else .released⟩
      some { before := s, action := a, after := { scopes, attempts } }
    | _ => none
  | .leave n =>
    match s.attempts[n]? with
    | some ⟨t, .leaving⟩ =>
      match s.scopes.leave t.boundary t.policy with
      | .ok scopes =>
        let attempts := s.attempts.set n ⟨t, .left⟩
        some { before := s, action := a, after := { scopes, attempts } }
      | .error e => some { before := s, action := a, failure := some e, after := s }
    | _ => none

def system : System ManualAttempts ManualAction ManualStep where
  step := step
  after t := t.after

def run (s : ManualAttempts) (schedule : List ManualAction) : Run ManualAttempts ManualStep :=
  system.run s schedule

/-- Every attempt has come to the end of its exit. -/
def Exited (s : ManualAttempts) : Prop :=
  ∀ a ∈ s.attempts, a.isOpen = false

/-- No later attempt under the boundary policy is open on the boundary of this one. -/
def Innermost (s : ManualAttempts) (n : Nat) : Prop :=
  ∀ m, n < m → ∀ a, s.attempts[n]? = some a → ∀ b, s.attempts[m]? = some b → b.isOpen = true →
    b.ticket.policy = .boundary → b.ticket.boundary ≠ a.ticket.boundary

/-- How many attempts count for a kind of ticket. One that was told to leave counts as accepted. -/
def counted? (a : ManualAttempt) : Option Ticket :=
  match a.stage with
  | .inside => some a.ticket
  | .leaving => some ⟨a.ticket.boundary, a.ticket.policy, true⟩
  | .released | .left => none

def count (s : ManualAttempts) (t : Ticket) : Nat :=
  s.attempts.countP (counted? · == some t)

end ManualAttempts

/-- An exit, or a part of it, that is the innermost one. -/
def ManualStep.IsInnermost (t : ManualStep) : Prop :=
  match t.action with
  | .attempt .. => True
  | .ask n | .leave n => t.before.Innermost n

namespace ManualAttempts

variable {s : ManualAttempts} {a : ManualAction} {t : ManualStep} {n : Nat} {k : Ticket}
  {b : String}

/-! ## Steps -/

/-- What an action can come to. -/
inductive Moves (s : ManualAttempts) : ManualAction → ManualStep → Prop
  | attempt (b : String) (policy : Policy) :
      Moves s (.attempt b policy) {
        before := s, action := .attempt b policy
        after := {
          scopes := (s.scopes.enter b policy).2
          attempts := s.attempts ++ [⟨(s.scopes.enter b policy).1, .inside⟩] } }
  | ask {n : Nat} {k : Ticket} (here : s.attempts[n]? = some ⟨k, .inside⟩) :
      Moves s (.ask n) {
        before := s, action := .ask n
        after := {
          scopes := (s.scopes.canLeave k.boundary k.policy).2
          attempts := s.attempts.set n
            ⟨k, if (s.scopes.canLeave k.boundary k.policy).1 then .leaving else .released⟩ } }
  | leave {n : Nat} {k : Ticket} {scopes : Scopes} (here : s.attempts[n]? = some ⟨k, .leaving⟩)
      (ok : s.scopes.leave k.boundary k.policy = .ok scopes) :
      Moves s (.leave n) {
        before := s, action := .leave n
        after := { scopes, attempts := s.attempts.set n ⟨k, .left⟩ } }
  | failed {n : Nat} {k : Ticket} {e : NotEntered}
      (here : s.attempts[n]? = some ⟨k, .leaving⟩)
      (failed : s.scopes.leave k.boundary k.policy = .error e) :
      Moves s (.leave n) { before := s, action := .leave n, failure := some e, after := s }

theorem moves_of_step (ht : s.step a = some t) : Moves s a t := by
  cases a with
  | attempt b policy =>
    cases ht
    exact .attempt b policy
  | ask n =>
    simp only [step] at ht
    split at ht
    next k here =>
      cases ht
      exact .ask here
    next => cases ht
  | leave n =>
    simp only [step] at ht
    split at ht
    next k here =>
      split at ht
      next scopes ok =>
        cases ht
        exact .leave here ok
      next e failed =>
        cases ht
        exact .failed here failed
    next => cases ht

theorem countP_set_add {p : ManualAttempt → Bool} {attempts : List ManualAttempt}
    {x y : ManualAttempt} (h : attempts[n]? = some x) :
    (attempts.set n y).countP p + (if p x then 1 else 0) =
      attempts.countP p + (if p y then 1 else 0) := by
  obtain ⟨hn, rfl⟩ := List.getElem?_eq_some_iff.1 h
  have hpos : p attempts[n] = true → 0 < attempts.countP p := fun hp =>
    List.countP_pos_iff.2 ⟨_, List.getElem_mem hn, hp⟩
  rw [List.countP_set hn]
  split
  next hp =>
    have hone := hpos hp
    omega
  next => omega

/-! ## Counts -/

theorem count_attempted (scopes : Scopes) (k : Ticket) :
    count { scopes, attempts := s.attempts ++ [⟨k, .inside⟩] } = k.more s.count := by
  funext u
  by_cases hu : u = k
  · subst hu
    rw [Ticket.more_self]
    simp [count, counted?]
  · rw [Ticket.more_of_ne hu]
    simp [count, counted?, Ne.symm hu]

theorem count_set {x y : ManualAttempt} (here : s.attempts[n]? = some x) (scopes : Scopes)
    (u : Ticket) :
    count { scopes, attempts := s.attempts.set n y } u + (if counted? x = some u then 1 else 0) =
      s.count u + (if counted? y = some u then 1 else 0) := by
  simpa [count] using countP_set_add (p := (counted? · == some u)) (y := y) here

theorem count_pos {x : ManualAttempt} (here : s.attempts[n]? = some x)
    (hk : counted? x = some k) : 0 < s.count k := by
  refine List.countP_pos_iff.2 ⟨x, List.mem_of_getElem? here, ?_⟩
  rw [hk, beq_self_eq_true]

/-- An attempt that does not count any more is one less of its kind. -/
theorem count_ended {x y : ManualAttempt} (here : s.attempts[n]? = some x)
    (hx : counted? x = some k) (hy : counted? y = none) (scopes : Scopes) :
    count { scopes, attempts := s.attempts.set n y } = k.less s.count := by
  funext u
  have hset := count_set (y := y) here scopes u
  rw [hx, hy] at hset
  by_cases hu : u = k
  · subst hu
    rw [Ticket.less_self]
    simp at hset
    omega
  · rw [Ticket.less_of_ne hu]
    simpa [Ne.symm hu] using hset

/-- An attempt that was told to leave counts as an accepted one from then on. -/
theorem count_told (here : s.attempts[n]? = some ⟨k, .inside⟩) (scopes : Scopes) :
    count { scopes, attempts := s.attempts.set n ⟨k, .leaving⟩ } =
      Ticket.more ⟨k.boundary, k.policy, true⟩ (k.less s.count) := by
  have hpos : 0 < s.count k := count_pos here rfl
  funext u
  have hset := count_set (y := ⟨k, .leaving⟩) here scopes u
  simp only [counted?, Option.some.injEq] at hset
  generalize htold : (⟨k.boundary, k.policy, true⟩ : Ticket) = told at hset
  by_cases hsame : told = k
  · rw [hsame] at hset
    rw [hsame, Ticket.more_less hpos]
    exact Nat.add_right_cancel hset
  · by_cases hu : u = told
    · subst hu
      rw [Ticket.more_self, Ticket.less_of_ne hsame]
      simpa [Ne.symm hsame] using hset
    · rw [Ticket.more_of_ne hu]
      by_cases huk : u = k
      · subst huk
        rw [Ticket.less_self]
        simp [hsame] at hset
        omega
      · rw [Ticket.less_of_ne huk]
        simpa [Ne.symm hu, Ne.symm huk] using hset

/-! ## What every step keeps -/

/-- The counts come out even: nothing is stranded, and accepted attempts are those that have left
and, where a boundary is entered, one more. -/
structure Even (standing : String → Standing) (s : ManualAttempts) : Prop where
  kept : Kept standing s.scopes s.count
  unstranded : ∀ b, standing b ≠ .stranded
  tally : ∀ b, s.attempts.countP (fun a => a.isAccepted && a.isOn b) =
    s.attempts.countP (fun a => a.hasLeft && a.isOn b) + (s.scopes.frame b).entered.toNat

variable {standing : String → Standing}

theorem Even.empty : Even (fun _ => .owned) {} where
  kept := .empty
  unstranded _ := nofun
  tally _ := rfl

theorem Even.attempt (h : Even standing s) (b : String) (policy : Policy) :
    Even standing {
      scopes := (s.scopes.enter b policy).2
      attempts := s.attempts ++ [⟨(s.scopes.enter b policy).1, .inside⟩] } where
  kept := by
    rw [count_attempted]
    exact h.kept.enter b policy
  unstranded := h.unstranded
  tally other := by
    have htally := h.tally other
    have hentered := s.scopes.entered_enter b policy other
    have hfresh : (s.scopes.enter b policy).1 =
        ⟨b, policy, (s.scopes.enter b policy).1.entered⟩ := rfl
    rw [List.countP_append, List.countP_append, List.countP_singleton, List.countP_singleton,
      hentered, htally, hfresh]
    cases policy with
    | internal => simp [ManualAttempt.isAccepted, ManualAttempt.hasLeft]
    | boundary =>
      rw [s.scopes.enter_boundary_entered]
      by_cases hother : other = b
      · subst hother
        cases (s.scopes.frame other).entered <;>
          simp [ManualAttempt.isAccepted, ManualAttempt.hasLeft, ManualAttempt.isOn]
      · simp [ManualAttempt.isAccepted, ManualAttempt.hasLeft, ManualAttempt.isOn, hother,
          Ne.symm hother]

/-- Where the ticket stays, and the attempt has not left, the accounts of entries stay. -/
theorem countP_isAccepted {stage stage' : ExitStage} (here : s.attempts[n]? = some ⟨k, stage⟩)
    (b : String) : (s.attempts.set n ⟨k, stage'⟩).countP (fun a => a.isAccepted && a.isOn b) =
      s.attempts.countP (fun a => a.isAccepted && a.isOn b) := by
  have hset := countP_set_add (p := fun a => a.isAccepted && a.isOn b) (y := ⟨k, stage'⟩) here
  exact Nat.add_right_cancel hset

theorem countP_hasLeft {stage : ExitStage} (here : s.attempts[n]? = some ⟨k, .inside⟩)
    (hstage : stage ≠ .left) (b : String) :
    (s.attempts.set n ⟨k, stage⟩).countP (fun a => a.hasLeft && a.isOn b) =
      s.attempts.countP (fun a => a.hasLeft && a.isOn b) := by
  have hset := countP_set_add (p := fun a => a.hasLeft && a.isOn b) (y := ⟨k, stage⟩) here
  simpa [ManualAttempt.hasLeft, hstage] using hset

theorem Even.ask (h : Even standing s) (here : s.attempts[n]? = some ⟨k, .inside⟩) :
    ∃ standing', Even standing' {
      scopes := (s.scopes.canLeave k.boundary k.policy).2
      attempts := s.attempts.set n
        ⟨k, if (s.scopes.canLeave k.boundary k.policy).1 then .leaving else .released⟩ } ∧
      ∀ b, standing b = .owned → ¬ (k = ⟨b, .boundary, true⟩ ∧ 0 < s.count ⟨b, .boundary, false⟩) →
        standing' b = .owned := by
  obtain ⟨standing', hkept, hstranded, howned⟩ := h.kept.ask (count_pos here rfl)
  refine ⟨standing', ⟨?_, fun b hb => h.unstranded b ((hstranded b).1 hb), fun b => ?_⟩, howned⟩
  · cases htold : (s.scopes.canLeave k.boundary k.policy).1 with
    | true =>
      rw [htold, if_pos rfl] at hkept
      rw [if_pos rfl, count_told here]
      exact hkept
    | false =>
      rw [htold, if_neg nofun] at hkept
      rw [if_neg nofun, count_ended here rfl rfl]
      exact hkept
  · rw [countP_isAccepted here, countP_hasLeft here (by split <;> nofun), h.tally,
      s.scopes.entered_canLeave]

theorem Even.leave (h : Even standing s) (here : s.attempts[n]? = some ⟨k, .leaving⟩) :
    ∃ scopes, s.scopes.leave k.boundary k.policy = .ok scopes ∧
      Even standing { scopes, attempts := s.attempts.set n ⟨k, .left⟩ } := by
  obtain ⟨scopes, hleave, hkept⟩ := h.kept.leave (count_pos here rfl)
  refine ⟨scopes, hleave, ⟨?_, h.unstranded, fun b => ?_⟩⟩
  · rw [count_ended here rfl rfl]
    exact hkept
  · have htally := h.tally b
    have hset := countP_set_add (p := fun a => a.hasLeft && a.isOn b) (y := ⟨k, .left⟩) here
    rw [countP_isAccepted here, Scopes.entered_leave hleave, htally]
    by_cases hgives : k.policy = .boundary ∧ b = k.boundary
    · obtain ⟨hpolicy, rfl⟩ := hgives
      have hentered : (s.scopes.frame k.boundary).entered = true :=
        Scopes.entered_of_leave (hpolicy ▸ hleave)
      simp [ManualAttempt.hasLeft, ManualAttempt.isOn, hpolicy] at hset
      simp [ManualAttempt.hasLeft, ManualAttempt.isOn, hpolicy, hentered, hset]
    · rw [if_neg hgives]
      have hstays : (k.policy == .boundary && k.boundary == b) = false := by
        rw [← Bool.not_eq_true, Bool.and_eq_true, beq_iff_eq, beq_iff_eq]
        intro hboth
        exact hgives ⟨hboth.1, hboth.2.symm⟩
      simpa [ManualAttempt.hasLeft, ManualAttempt.isOn, hstays] using hset.symm

/-- Every step keeps the counts even, and no exit fails. -/
theorem Even.step (h : Even standing s) (ht : s.step a = some t) :
    t.failure = none ∧ ∃ standing', Even standing' t.after := by
  cases moves_of_step ht with
  | attempt b policy => exact ⟨rfl, standing, h.attempt b policy⟩
  | ask here =>
    obtain ⟨standing', heven, -⟩ := h.ask here
    exact ⟨rfl, standing', heven⟩
  | leave here ok =>
    obtain ⟨scopes, hleave, heven⟩ := h.leave here
    rw [ok] at hleave
    cases hleave
    exact ⟨rfl, standing, heven⟩
  | failed here failed =>
    obtain ⟨scopes, hleave, -⟩ := h.leave here
    rw [failed] at hleave
    cases hleave

theorem Even.run (h : Even standing s) (schedule : List ManualAction) :
    ∃ standing', Even standing' (s.run schedule).final :=
  System.run_invariant (P := fun s => ∃ standing, Even standing s)
    (fun ⟨_, h⟩ ht => (h.step ht).2) ⟨standing, h⟩ schedule

/-! ## What even counts say -/

theorem counted?_isOpen (x : ManualAttempt) : (counted? x).isSome = x.isOpen := by
  obtain ⟨k, stage⟩ := x
  cases stage <;> rfl

theorem Even.depth_eq (h : Even standing s) (b : String) :
    s.scopes.depth b = s.attempts.countP (fun a => a.isOpen && a.isOn b) := by
  have hopen : s.attempts.countP (fun a => a.isOpen && a.isOn b) =
      (s.attempts.filterMap counted?).countP (·.boundary == b) := by
    rw [List.countP_filterMap]
    refine List.countP_congr fun x _ => ?_
    obtain ⟨k, stage⟩ := x
    cases stage <;> simp [ManualAttempt.isOpen, ManualAttempt.isOn, counted?]
  have hcount (k : Ticket) : (s.attempts.filterMap counted?).count k = s.count k :=
    List.count_filterMap
  have hsum := (h.kept.stands b).sum_eq (h.unstranded b)
  rw [hopen, Attempts.countP_boundary, hcount, hcount, hcount, hcount, hsum, h.kept.internal,
    h.kept.unskipped]
  rfl

theorem Even.leaving_le (h : Even standing s) (b : String) :
    s.attempts.countP (fun a => a.isLeaving && a.isOn b) ≤ 1 := by
  have hcounted : s.attempts.countP (fun a => a.isLeaving && a.isOn b) ≤
      s.count ⟨b, .boundary, true⟩ := by
    refine List.countP_mono_left fun x _ hx => ?_
    obtain ⟨⟨b', policy, entered⟩, stage⟩ := x
    simp only [ManualAttempt.isLeaving, ManualAttempt.isOn, Bool.and_eq_true, beq_iff_eq] at hx
    obtain ⟨⟨rfl, rfl⟩, rfl⟩ := hx
    simp [counted?]
  have hone : s.count ⟨b, .boundary, true⟩ ≤ 1 := by
    by_cases hpos : 0 < s.count ⟨b, .boundary, true⟩
    · obtain ⟨-, -, hone⟩ := (h.kept.stands b).of_accepted hpos
      omega
    · omega
  exact Nat.le_trans hcounted hone

theorem Exited.count_eq_zero (h : s.Exited) (k : Ticket) : s.count k = 0 := by
  refine List.countP_eq_zero.2 fun x hx hk => ?_
  have hopen : x.isOpen = true := by
    rw [← counted?_isOpen, beq_iff_eq.1 hk]
    rfl
  rw [h x hx] at hopen
  cases hopen

theorem Even.frames_empty (h : Even standing s) (hexited : s.Exited) :
    s.scopes.frames = .empty := by
  refine Dictionary.ext_get? fun b => ?_
  rw [Dictionary.get?_empty]
  exact h.kept.absent hexited.count_eq_zero (h.unstranded b)

/-- When every attempt has exited, as many have left a boundary as were accepted there. -/
theorem Even.left_eq (h : Even standing s) (hexited : s.Exited) (b : String) :
    s.attempts.countP (fun a => a.hasLeft && a.isOn b) =
      s.attempts.countP (fun a => a.isAccepted && a.isOn b) := by
  have hidle := h.kept.frame_eq hexited.count_eq_zero (h.unstranded b)
  rw [h.tally, hidle]
  rfl

/-- Attempts that are as many on every boundary are as many in all. -/
theorem countP_of_boundaries {p q : ManualAttempt → Bool} {attempts : List ManualAttempt}
    (h : ∀ b, attempts.countP (fun a => p a && a.isOn b) =
      attempts.countP (fun a => q a && a.isOn b)) : attempts.countP p = attempts.countP q := by
  have hcount (r : ManualAttempt → Bool) (b : String) :
      ((attempts.filter r).map (·.ticket.boundary)).count b =
        attempts.countP (fun a => r a && a.isOn b) := by
    rw [List.count, List.countP_map, List.countP_filter]
    refine List.countP_congr fun x _ => ?_
    simp [ManualAttempt.isOn, and_comm]
  have hperm : ((attempts.filter p).map (·.ticket.boundary)).Perm
      ((attempts.filter q).map (·.ticket.boundary)) := by
    refine List.perm_iff_count.2 fun b => ?_
    rw [hcount, hcount, h]
  simpa [List.countP_eq_length_filter] using hperm.length_eq

/-! ## Innermost first -/

/-- Two open attempts under the boundary policy on one boundary. -/
structure Rivals (x y : ManualAttempt) : Prop where
  left_open : x.isOpen = true
  right_open : y.isOpen = true
  left_policy : x.ticket.policy = .boundary
  right_policy : y.ticket.policy = .boundary
  boundary : x.ticket.boundary = y.ticket.boundary

/-- Of the open attempts on a boundary only the first is accepted, and every answer was that of the
attempt to enter. -/
structure Nested (s : ManualAttempts) : Prop where
  even : Even (fun _ => .owned) s
  told : ∀ x ∈ s.attempts, ∀ answer, x.told? = some answer → answer = x.ticket.entered
  first : ∀ m n : Nat, m < n → ∀ x, s.attempts[m]? = some x → ∀ y, s.attempts[n]? = some y →
    Rivals x y → y.ticket.entered = false
  guarded : ∀ b, 0 < s.count ⟨b, .boundary, false⟩ → 0 < s.count ⟨b, .boundary, true⟩

namespace Nested

variable {x y : ManualAttempt} {stage : ExitStage}

theorem empty : Nested {} where
  even := .empty
  told := by simp
  first := by simp
  guarded _ h := h

/-- Beside an open attempt its boundary is entered. -/
theorem entered_of_open (h : s.Nested) (hx : s.attempts[n]? = some x) (hopen : x.isOpen = true)
    (hpolicy : x.ticket.policy = .boundary) :
    (s.scopes.frame x.ticket.boundary).entered = true := by
  have hcount : 0 < s.count ⟨x.ticket.boundary, .boundary, true⟩ := by
    obtain ⟨⟨b, policy, entered⟩, stage⟩ := x
    cases hpolicy
    cases stage with
    | inside =>
      cases entered with
      | true => exact count_pos hx rfl
      | false => exact h.guarded b (count_pos hx rfl)
    | leaving => exact count_pos hx rfl
    | released => cases hopen
    | left => cases hopen
  exact ((h.even.kept.stands _).of_accepted hcount).2.1

/-- An accepted attempt that exits first of those on its boundary is alone there. -/
theorem alone (h : s.Nested) (here : s.attempts[n]? = some x) (hopen : x.isOpen = true)
    (hpolicy : x.ticket.policy = .boundary) (hentered : x.ticket.entered = true)
    (hinner : s.Innermost n) : s.count ⟨x.ticket.boundary, .boundary, false⟩ = 0 := by
  refine List.countP_eq_zero.2 fun y hy hk => ?_
  obtain ⟨m, hm⟩ := List.getElem?_of_mem hy
  have hcounted : counted? y = some ⟨x.ticket.boundary, .boundary, false⟩ := beq_iff_eq.1 hk
  obtain ⟨k, stage⟩ := y
  have hinside : stage = .inside ∧ k = ⟨x.ticket.boundary, .boundary, false⟩ := by
    cases stage <;> simp_all [counted?]
  obtain ⟨rfl, rfl⟩ := hinside
  rcases Nat.lt_trichotomy m n with hlt | rfl | hgt
  · have hrejected := h.first m n hlt _ hm _ here ⟨rfl, hopen, rfl, hpolicy, rfl⟩
    rw [hentered] at hrejected
    cases hrejected
  · rw [here, Option.some.injEq] at hm
    rw [hm] at hentered
    cases hentered
  · exact hinner m hgt _ here _ hm rfl rfl rfl

/-- Who asks first of those on its boundary is told to leave exactly if it was accepted. -/
theorem answer (h : s.Nested) (here : s.attempts[n]? = some ⟨k, .inside⟩)
    (hinner : s.Innermost n) : (s.scopes.canLeave k.boundary k.policy).1 = k.entered := by
  obtain ⟨b, policy, entered⟩ := k
  cases policy with
  | internal =>
    cases entered with
    | true => rfl
    | false => exact absurd (h.even.kept.unskipped b) (Nat.ne_of_gt (count_pos here rfl))
  | boundary =>
    have hskipped : s.count ⟨b, .boundary, false⟩ = (s.scopes.frame b).skipped :=
      (h.even.kept.stands b).2
    rw [Scopes.canLeave_boundary rfl, ← hskipped]
    cases entered with
    | true => rw [h.alone here rfl rfl rfl hinner]; rfl
    | false => rw [if_pos (count_pos here rfl)]

/-- An attempt of later was there before with the same ticket, and open if it is open now. -/
theorem before_set {m : Nat} (here : s.attempts[n]? = some ⟨k, stage⟩)
    (hopen : (⟨k, stage⟩ : ManualAttempt).isOpen = true) {stage' : ExitStage}
    (hm : (s.attempts.set n ⟨k, stage'⟩)[m]? = some y) :
    ∃ x, s.attempts[m]? = some x ∧ x.ticket = y.ticket ∧ (y.isOpen = true → x.isOpen = true) := by
  rw [List.getElem?_set] at hm
  split at hm
  next heq =>
    subst heq
    split at hm
    · cases hm
      exact ⟨_, here, rfl, fun _ => hopen⟩
    · cases hm
  next => exact ⟨y, hm, rfl, id⟩

/-- The exit of one attempt goes on, and the order among the open ones stays. -/
theorem first_set (h : s.Nested) (here : s.attempts[n]? = some ⟨k, stage⟩)
    (hopen : (⟨k, stage⟩ : ManualAttempt).isOpen = true) (stage' : ExitStage) :
    ∀ i j : Nat, i < j → ∀ x, (s.attempts.set n ⟨k, stage'⟩)[i]? = some x →
      ∀ y, (s.attempts.set n ⟨k, stage'⟩)[j]? = some y → Rivals x y → y.ticket.entered = false := by
  intro i j hij x hx y hy hrivals
  obtain ⟨x', hx', hxticket, hxopen⟩ := before_set here hopen hx
  obtain ⟨y', hy', hyticket, hyopen⟩ := before_set here hopen hy
  rw [← hyticket]
  refine h.first i j hij x' hx' y' hy' ⟨hxopen hrivals.left_open, hyopen hrivals.right_open, ?_, ?_,
    ?_⟩
  · rw [hxticket, hrivals.left_policy]
  · rw [hyticket, hrivals.right_policy]
  · rw [hxticket, hyticket, hrivals.boundary]

theorem told?_asked (k : Ticket) (mayLeave : Bool) :
    (⟨k, if mayLeave then .leaving else .released⟩ : ManualAttempt).told? = some mayLeave := by
  cases mayLeave <;> rfl

theorem told_set (h : s.Nested) {stage' : ExitStage}
    (hanswer : ∀ answer, (⟨k, stage'⟩ : ManualAttempt).told? = some answer → answer = k.entered) :
    ∀ x ∈ s.attempts.set n ⟨k, stage'⟩, ∀ answer, x.told? = some answer →
      answer = x.ticket.entered := by
  intro x hx
  rcases List.mem_or_eq_of_mem_set hx with hx | rfl
  · exact h.told x hx
  · exact hanswer

/-- A new attempt is the last one, and rejected if its boundary is entered. -/
theorem first_attempt (h : s.Nested) (b : String) (policy : Policy) {m n : Nat} (hmn : m < n)
    (hx : (s.attempts ++ [⟨(s.scopes.enter b policy).1, .inside⟩])[m]? = some x)
    (hy : (s.attempts ++ [⟨(s.scopes.enter b policy).1, .inside⟩])[n]? = some y)
    (hrivals : Rivals x y) : y.ticket.entered = false := by
  rw [List.getElem?_append] at hx hy
  split at hy
  next hn =>
    rw [if_pos (Nat.lt_trans hmn hn)] at hx
    exact h.first m n hmn x hx y hy hrivals
  next hn =>
    obtain ⟨hlt, hlast⟩ := List.getElem?_eq_some_iff.1 hy
    rw [List.getElem_singleton] at hlast
    simp only [List.length_singleton, Nat.lt_one_iff] at hlt
    have hm : m < s.attempts.length := by omega
    subst hlast
    rw [if_pos hm] at hx
    have hpolicy : policy = .boundary := hrivals.right_policy
    have hboundary : x.ticket.boundary = b := hrivals.boundary
    have hentered := h.entered_of_open hx hrivals.left_open hrivals.left_policy
    subst hpolicy
    show (s.scopes.enter b .boundary).1.entered = false
    rw [s.scopes.enter_boundary_entered, ← hboundary, hentered]
    rfl

theorem guarded_attempt (h : s.Nested) (b : String) (policy : Policy) (b' : String)
    (hpos : 0 < (s.scopes.enter b policy).1.more s.count ⟨b', .boundary, false⟩) :
    0 < (s.scopes.enter b policy).1.more s.count ⟨b', .boundary, true⟩ := by
  refine Nat.lt_of_lt_of_le ?_ (Ticket.le_more ..)
  by_cases hrejected : (⟨b', .boundary, false⟩ : Ticket) = (s.scopes.enter b policy).1
  · -- it was rejected because the boundary is entered
    have hb : b' = b := congrArg Ticket.boundary hrejected
    have hpolicy : .boundary = policy := congrArg Ticket.policy hrejected
    have hentered : false = (s.scopes.enter b policy).1.entered :=
      congrArg Ticket.entered hrejected
    subst hb hpolicy
    rw [s.scopes.enter_boundary_entered] at hentered
    have hcount : s.count ⟨b', .boundary, true⟩ = (s.scopes.frame b').entered.toNat :=
      (h.even.kept.stands b').1
    rw [hcount]
    cases hframe : (s.scopes.frame b').entered with
    | true => decide
    | false =>
      rw [hframe] at hentered
      cases hentered
  · rw [Ticket.more_of_ne hrejected] at hpos
    exact h.guarded b' hpos

theorem attempt (h : s.Nested) (b : String) (policy : Policy) :
    Nested {
      scopes := (s.scopes.enter b policy).2
      attempts := s.attempts ++ [⟨(s.scopes.enter b policy).1, .inside⟩] } where
  even := h.even.attempt b policy
  told x hx answer hanswer := by
    rcases List.mem_append.1 hx with hx | hx
    · exact h.told x hx answer hanswer
    · rw [List.mem_singleton.1 hx] at hanswer
      cases hanswer
  first m n hmn x hx y hy hrivals := h.first_attempt b policy hmn hx hy hrivals
  guarded b' hpos := by
    rw [count_attempted] at hpos ⊢
    exact h.guarded_attempt b policy b' hpos

/-- When a rejected attempt is done, the accepted one is still there. -/
theorem guarded_less (h : s.Nested) (hentered : k.entered = false) {b : String}
    (hpos : 0 < k.less s.count ⟨b, .boundary, false⟩) :
    0 < k.less s.count ⟨b, .boundary, true⟩ := by
  have hother : (⟨b, .boundary, true⟩ : Ticket) ≠ k := by
    intro heq
    rw [← heq] at hentered
    cases hentered
  rw [Ticket.less_of_ne hother]
  exact h.guarded b (Nat.lt_of_lt_of_le hpos (Ticket.less_le ..))

theorem ask (h : s.Nested) (here : s.attempts[n]? = some ⟨k, .inside⟩) (hinner : s.Innermost n) :
    Nested {
      scopes := (s.scopes.canLeave k.boundary k.policy).2
      attempts := s.attempts.set n
        ⟨k, if (s.scopes.canLeave k.boundary k.policy).1 then .leaving else .released⟩ } := by
  obtain ⟨standing, heven, howned⟩ := h.even.ask here
  have hanswer := h.answer here hinner
  have hstanding : standing = fun _ => .owned := by
    funext b
    refine howned b rfl ?_
    rintro ⟨rfl, hskipped⟩
    exact absurd (h.alone here rfl rfl rfl hinner) (Nat.ne_of_gt hskipped)
  rw [hstanding] at heven
  refine ⟨heven, ?_, h.first_set here rfl _, ?_⟩
  · refine h.told_set fun answer htold => ?_
    rw [hanswer, told?_asked] at htold
    cases htold
    rfl
  · intro b
    rw [hanswer]
    cases hentered : k.entered with
    | true =>
      have hsame : (⟨k.boundary, k.policy, true⟩ : Ticket) = k := by rw [← hentered]
      rw [if_pos rfl, count_told here, hsame, Ticket.more_less (count_pos here rfl)]
      exact h.guarded b
    | false =>
      rw [if_neg nofun, count_ended here rfl rfl]
      exact h.guarded_less hentered

theorem leave (h : s.Nested) (here : s.attempts[n]? = some ⟨k, .leaving⟩) (hinner : s.Innermost n) :
    ∃ scopes, s.scopes.leave k.boundary k.policy = .ok scopes ∧
      Nested { scopes, attempts := s.attempts.set n ⟨k, .left⟩ } := by
  obtain ⟨scopes, hleave, heven⟩ := h.even.leave here
  have hentered : true = k.entered := h.told _ (List.mem_of_getElem? here) true rfl
  refine ⟨scopes, hleave, heven, ?_, h.first_set here rfl _, ?_⟩
  · refine h.told_set fun answer htold => ?_
    cases htold
    exact hentered
  · intro b hpos
    have hcounted : counted? (⟨k, .leaving⟩ : ManualAttempt) = some k := by
      rw [counted?, hentered]
    rw [count_ended here hcounted rfl] at hpos ⊢
    have hrejected : (⟨b, .boundary, false⟩ : Ticket) ≠ k := by
      intro heq
      rw [← heq] at hentered
      cases hentered
    rw [Ticket.less_of_ne hrejected] at hpos
    by_cases haccepted : (⟨b, .boundary, true⟩ : Ticket) = k
    · subst haccepted
      exact absurd (h.alone here rfl rfl rfl hinner) (Nat.ne_of_gt hpos)
    · rw [Ticket.less_of_ne haccepted]
      exact h.guarded b hpos

theorem step (h : s.Nested) (ht : s.step a = some t) (hinner : t.IsInnermost) : t.after.Nested := by
  cases moves_of_step ht with
  | attempt b policy => exact h.attempt b policy
  | ask here => exact h.ask here hinner
  | leave here ok =>
    obtain ⟨scopes, hleave, hnested⟩ := h.leave here hinner
    rw [ok] at hleave
    cases hleave
    exact hnested
  | failed => exact h

theorem run (h : s.Nested) (schedule : List ManualAction)
    (hall : ∀ t ∈ (s.run schedule).transitions, t.IsInnermost) :
    (s.run schedule).final.Nested :=
  System.run_invariant_of (P := Nested) (fun hs ht hinner => hs.step ht hinner) h schedule hall

end Nested

/-! ## Every order -/

/-- What holds of exits by hand from the empty stack on, in whatever order they come. -/
structure Balanced (r : Run ManualAttempts ManualStep) : Prop where
  leaves : ∀ t ∈ r.transitions, t.failure = none
  depth : ∀ b, r.final.scopes.depth b = r.final.attempts.countP (fun a => a.isOpen && a.isOn b)
  leaving : ∀ b, r.final.attempts.countP (fun a => a.isLeaving && a.isOn b) ≤ 1
  settled : r.final.Exited →
    (∀ b, r.final.attempts.countP (fun a => a.hasLeft && a.isOn b) =
      r.final.attempts.countP (fun a => a.isAccepted && a.isOn b)) ∧
    r.final.attempts.countP ManualAttempt.hasLeft =
      r.final.attempts.countP ManualAttempt.isAccepted ∧
    r.final.scopes.frames = .empty
  /-- Among exits that are the innermost ones, whoever is told to leave was accepted, and
  conversely. -/
  innermost : (∀ t ∈ r.transitions, t.IsInnermost) →
    ∀ a ∈ r.final.attempts, ∀ answer, a.told? = some answer → answer = a.ticket.entered

/-- Attempts by hand that leave when they are told to come out even: their exits never fail, the
depth of a boundary counts the attempts that are open on it, at most one of them is to give the
boundary back, and in the end the stack is empty. -/
theorem exits_balance (schedule : List ManualAction) :
    Balanced (run {} schedule) where
  leaves t ht := by
    obtain ⟨first, e, rest, -, hstep⟩ := System.run_mem ht
    obtain ⟨standing, heven⟩ := Even.empty.run first
    exact (heven.step hstep).1
  depth b := by
    obtain ⟨standing, heven⟩ := Even.empty.run schedule
    exact heven.depth_eq b
  leaving b := by
    obtain ⟨standing, heven⟩ := Even.empty.run schedule
    exact heven.leaving_le b
  settled hexited := by
    obtain ⟨standing, heven⟩ := Even.empty.run schedule
    have hboundary := heven.left_eq hexited
    exact ⟨hboundary, countP_of_boundaries hboundary, heven.frames_empty hexited⟩
  innermost hall := (Nested.empty.run schedule hall).told

/-- The outer attempt exits first, and the inner one has to give back what it never entered. -/
example :
    let r := run {} [.attempt "db" .boundary, .attempt "db" .boundary, .ask 0, .ask 1, .leave 1]
    r.final.attempts.map (fun a => (a.ticket.entered, a.told?)) =
      [(true, some false), (false, some true)] := by
  decide

end ManualAttempts

end ShadowTraffic
