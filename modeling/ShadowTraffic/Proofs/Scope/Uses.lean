import ShadowTraffic.Proofs.Scope.Tally

/-! # Uses of a scope stack

Whoever uses a stack is answered by the counts of its own boundary and policy, whatever is done
about others. An exit fails exactly when all that were accepted have left; it then leaves the stack
as it is and is counted at its boundary, and nothing else is counted.
-/

namespace ShadowTraffic

namespace CountedScopes

/-! ## What makes no difference -/

/-- What some of the actions are answered. -/
def answersTo (among : String × ScopeAction → Bool) (m : Metrics)
    (schedule : List (String × ScopeAction)) : List ScopeAnswer :=
  ((run m schedule).transitions.filter fun u => among (u.boundary, u.action)).map (·.answer)

/-- Actions that are taken are answered alike in related stacks, and those that are left out leave
a stack related. -/
structure Overlooked (among : String × ScopeAction → Bool) (R : Scopes → Scopes → Prop) :
    Prop where
  taken : ∀ {s s' b a}, R s s' → among (b, a) = true →
    (s.act b a).1 = (s'.act b a).1 ∧ R (s.act b a).2 (s'.act b a).2
  left : ∀ {s s' b a}, R s s' → among (b, a) = false → R (s.act b a).2 s'

theorem Overlooked.answersTo_filter {among : String × ScopeAction → Bool}
    {R : Scopes → Scopes → Prop} (h : Overlooked among R) (hempty : R {} {}) (m : Metrics)
    (schedule : List (String × ScopeAction)) :
    answersTo among m schedule = answersTo among m (schedule.filter among) := by
  have hoverlooks : System.Overlooks system (fun s s' => R s.scopes s'.scopes) among
      (fun u => among (u.boundary, u.action)) (·.answer) := by
    refine ⟨fun {s s' e} hR he => ?_, fun {s s' e} hR he => ?_⟩
    · obtain ⟨hanswer, hafter⟩ := h.taken hR he
      exact ⟨_, _, rfl, rfl, hafter, rfl, fun _ => hanswer⟩
    · exact ⟨_, rfl, h.left hR he, he⟩
  exact hoverlooks.run_filter hempty schedule

/-- Actions on other boundaries make no difference. -/
theorem overlooked_boundary (b : String) :
    Overlooked (·.1 = b) fun s s' => s.frame b = s'.frame b := by
  refine ⟨fun {s s' other a} hR he => ?_, fun {s s' other a} hR he => ?_⟩
  · obtain rfl : other = b := of_decide_eq_true he
    exact Scopes.act_congr hR a
  · rw [Scopes.frame_act_ne (Ne.symm (of_decide_eq_false he)), hR]

end CountedScopes

/-! ## Policies -/

/-- The policy whose attempts an action is about. -/
def ScopeAction.policy? : ScopeAction → Option Policy
  | .tryEnter policy | .canLeave policy | .leave policy => some policy
  | .releaseSkipped => some .boundary
  | .state | .depth => none

namespace Frame

variable {f g : Frame} {policy : Policy} {a : ScopeAction}

/-- What a frame has of the attempts under a policy. -/
def under (f : Frame) : Policy → Frame
  | .boundary => { f with internalDepth := 0 }
  | .internal => { internalDepth := f.internalDepth }

theorem under_act (h : f.under policy = g.under policy) (ha : a.policy? = some policy)
    (b : String) : (f.act b a).1 = (g.act b a).1 ∧
      (f.act b a).2.under policy = (g.act b a).2.under policy := by
  obtain ⟨entered, skipped, internalDepth⟩ := f
  obtain ⟨entered', skipped', internalDepth'⟩ := g
  cases policy with
  | boundary =>
    obtain ⟨rfl, rfl⟩ : entered = entered' ∧ skipped = skipped' := by simpa [under] using h
    cases a with
    | tryEnter | canLeave | leave =>
      cases ha
      simp only [act]
      split <;> exact ⟨rfl, rfl⟩
    | releaseSkipped => exact ⟨rfl, rfl⟩
    | state | depth => cases ha
  | internal =>
    obtain rfl : internalDepth = internalDepth' := by simpa [under] using h
    cases a with
    | tryEnter | canLeave =>
      cases ha
      exact ⟨rfl, rfl⟩
    | leave =>
      cases ha
      simp only [act]
      split <;> exact ⟨rfl, rfl⟩
    | releaseSkipped | state | depth => cases ha

/-- What is not about the attempts under a policy leaves what there is of them. -/
theorem under_act_left (ha : a.policy? ≠ some policy) (f : Frame) (b : String) :
    (f.act b a).2.under policy = f.under policy := by
  cases policy with
  | boundary =>
    cases a with
    | tryEnter other | canLeave other =>
      cases other with
      | boundary => exact absurd rfl ha
      | internal => rfl
    | leave other =>
      cases other with
      | boundary => exact absurd rfl ha
      | internal =>
        simp only [act]
        split <;> rfl
    | releaseSkipped => exact absurd rfl ha
    | state | depth => rfl
  | internal =>
    cases a with
    | tryEnter other | canLeave other | leave other =>
      cases other with
      | internal => exact absurd rfl ha
      | boundary =>
        simp only [act]
        split <;> rfl
    | releaseSkipped | state | depth => rfl

/-- The accepted attempts under a policy that have not left. -/
def entries (f : Frame) : Policy → Nat
  | .boundary => f.entered.toNat
  | .internal => f.internalDepth

theorem answer_leave (f : Frame) (b : String) (policy : Policy) :
    (f.act b (.leave policy)).1 = if f.entries policy = 0 then .refused ⟨b⟩ else .done := by
  cases policy with
  | boundary =>
    rw [act, entries]
    cases f.entered <;> rfl
  | internal =>
    rw [act, entries]
    by_cases hopen : f.internalDepth = 0
    · rw [hopen]
      rfl
    · rw [if_pos (Nat.pos_of_ne_zero hopen), if_neg hopen]

/-- Entries come with accepted attempts and go with exits. -/
theorem entries_act (f : Frame) (b : String) (a : ScopeAction) (policy : Policy) :
    f.entries policy + (if a = .tryEnter policy ∧ (f.act b a).1 = .decided true then 1 else 0) =
      (f.act b a).2.entries policy +
        if a = .leave policy ∧ (f.act b a).1 = .done then 1 else 0 := by
  obtain ⟨entered, skipped, internalDepth⟩ := f
  cases a with
  | tryEnter other =>
    cases other with
    | internal => cases policy <;> simp [act, entries]
    | boundary => cases policy <;> cases entered <;> simp [act, entries]
  | canLeave other =>
    cases other with
    | internal => cases policy <;> simp [act, entries]
    | boundary => cases policy <;> by_cases h : 0 < skipped <;> simp [act, entries, h]
  | leave other =>
    cases other with
    | boundary => cases policy <;> cases entered <;> simp [act, entries]
    | internal =>
      cases policy <;> by_cases h : 0 < internalDepth <;> simp [act, entries, h]
      omega
  | releaseSkipped | state | depth => cases policy <;> simp [act, entries]

end Frame

namespace CountedScopes

/-- Actions under the other policy make no difference. -/
theorem overlooked_policy (policy : Policy) :
    Overlooked (·.2.policy? = some policy) fun s s' =>
      ∀ b, (s.frame b).under policy = (s'.frame b).under policy := by
  refine ⟨fun {s s' b a} hR he => ?_, fun {s s' b a} hR he other => ?_⟩
  · have hact := Scopes.tells_act (rfl : s.frame b = _) a
    have hact' := Scopes.tells_act (rfl : s'.frame b = _) a
    obtain ⟨hanswer, hunder⟩ := Frame.under_act (hR b) (of_decide_eq_true he) b
    refine ⟨by rw [hact.answer, hact'.answer, hanswer], fun other => ?_⟩
    rw [hact.frame, hact'.frame]
    split
    next => exact hunder
    next => exact hR other
  · rw [(Scopes.tells_act (rfl : s.frame b = _) a).frame]
    split
    next heq => rw [Frame.under_act_left (of_decide_eq_false he), heq, hR]
    next => exact hR other

end CountedScopes

/-! ## Exits -/

namespace ScopeUse

/-- An attempt under a policy was accepted. -/
def Accepts (u : ScopeUse) (b : String) (policy : Policy) : Prop :=
  u.boundary = b ∧ u.action = .tryEnter policy ∧ u.answer = .decided true

/-- An attempt under a policy left. -/
def Leaves (u : ScopeUse) (b : String) (policy : Policy) : Prop :=
  u.boundary = b ∧ u.action = .leave policy ∧ u.answer = .done

instance (u : ScopeUse) (b : String) (policy : Policy) : Decidable (u.Accepts b policy) :=
  inferInstanceAs (Decidable (_ ∧ _ ∧ _))

instance (u : ScopeUse) (b : String) (policy : Policy) : Decidable (u.Leaves b policy) :=
  inferInstanceAs (Decidable (_ ∧ _ ∧ _))

/-- An exit under a policy fails for want of an entry, and then changes nothing. -/
structure Exits (u : ScopeUse) (policy : Policy) : Prop where
  refused : u.answer = .refused ⟨u.boundary⟩ ↔
    (u.before.scopes.frame u.boundary).entries policy = 0
  done : u.answer = .done ↔ 0 < (u.before.scopes.frame u.boundary).entries policy
  unchanged : u.answer = .refused ⟨u.boundary⟩ → u.after.scopes = u.before.scopes

end ScopeUse

theorem Scopes.act_leave (s : Scopes) (b : String) (policy : Policy) :
    (∃ after, s.leave b policy = .ok after ∧ s.act b (.leave policy) = (.done, after)) ∨
      (s.leave b policy = .error ⟨b⟩ ∧ s.act b (.leave policy) = (.refused ⟨b⟩, s)) := by
  have hanswer := (tells_act (rfl : s.frame b = _) (.leave policy)).answer
  rw [Frame.answer_leave, act] at hanswer
  rw [act]
  cases hleave : s.leave b policy with
  | ok after => exact .inl ⟨after, rfl, rfl⟩
  | error e =>
    simp only [hleave] at hanswer
    by_cases hnone : (s.frame b).entries policy = 0
    · rw [if_pos hnone] at hanswer
      cases hanswer
      exact .inr ⟨rfl, rfl⟩
    · rw [if_neg hnone] at hanswer
      cases hanswer

namespace CountedScopes

theorem exits_leave (s : CountedScopes) (b : String) (policy : Policy) :
    (s.use b (.leave policy)).Exits policy := by
  have hanswer : (s.use b (.leave policy)).answer = _ :=
    (Scopes.tells_act (rfl : s.scopes.frame b = _) (.leave policy)).answer.trans
      (Frame.answer_leave _ b policy)
  refine ⟨?_, ?_, fun hrefused => ?_⟩
  · rw [hanswer]
    split
    next hnone => exact iff_of_true rfl hnone
    next hsome => exact iff_of_false nofun hsome
  · rw [hanswer]
    split
    next hnone => exact iff_of_false nofun (hnone ▸ Nat.lt_irrefl 0)
    next hsome => exact iff_of_true rfl (Nat.pos_of_ne_zero hsome)
  · rcases s.scopes.act_leave b policy with ⟨after, -, hact⟩ | ⟨-, hact⟩
    · have hdone : (s.use b (.leave policy)).answer = .done := congrArg Prod.fst hact
      rw [hdone] at hrefused
      cases hrefused
    · exact congrArg Prod.snd hact

/-- Nothing is counted but refused exits, each once and at its boundary. -/
theorem count_use (s : CountedScopes) (b : String) (a : ScopeAction) (c : Counter) :
    (s.use b a).after.metrics.count c = s.metrics.count c +
      if c = .misused b ∧ (s.use b a).answer = .refused ⟨b⟩ then 1 else 0 := by
  have hcount : (s.use b a).after.metrics.count c =
      ((s.scopes.reports b a).foldl Metrics.record s.metrics).count c := rfl
  have hanswer : (s.use b a).answer = (s.scopes.act b a).1 := rfl
  rw [hcount, hanswer]
  cases a with
  | tryEnter policy =>
    rw [if_neg (by simp [Scopes.act])]
    simp only [Scopes.reports]
    split <;> rfl
  | canLeave | releaseSkipped | state | depth =>
    rw [if_neg (by simp [Scopes.act])]
    rfl
  | leave policy =>
    rw [Scopes.reports, Scopes.exit, Scopes.drop, if_pos rfl]
    rcases s.scopes.act_leave b policy with ⟨after, hleave, hact⟩ | ⟨hleave, hact⟩
    · rw [hleave, hact, if_neg (by simp)]
      rfl
    · rw [hleave, hact]
      simp only [List.foldl_cons, List.foldl_nil, Metrics.count_counted, eq_comm, and_true]
      rfl

theorem entries_use (s : CountedScopes) (other b : String) (a : ScopeAction) (policy : Policy) :
    (s.scopes.frame b).entries policy + (if (s.use other a).Accepts b policy then 1 else 0) =
      ((s.use other a).after.scopes.frame b).entries policy +
        if (s.use other a).Leaves b policy then 1 else 0 := by
  have hact := Scopes.tells_act (rfl : s.scopes.frame other = _) a
  have hframe : (s.use other a).after.scopes.frame b = _ := hact.frame b
  have hanswer : (s.use other a).answer = _ := hact.answer
  have haction : (s.use other a).action = a := rfl
  rw [hframe]
  simp only [ScopeUse.Accepts, ScopeUse.Leaves, hanswer, haction]
  by_cases hb : b = other
  · subst hb
    have hself : (s.use b a).boundary = b := rfl
    simp only [hself, true_and, if_true]
    exact Frame.entries_act ..
  · have hother : ¬ (s.use other a).boundary = b := fun h => hb h.symm
    simp only [hother, false_and, if_false, if_neg hb]

/-- The entries of a boundary are the attempts that were accepted and have not left. -/
theorem entries_run (s : CountedScopes) (schedule : List (String × ScopeAction)) (b : String)
    (policy : Policy) :
    (s.scopes.frame b).entries policy +
        (system.run s schedule).transitions.countP (·.Accepts b policy) =
      ((system.run s schedule).final.scopes.frame b).entries policy +
        (system.run s schedule).transitions.countP (·.Leaves b policy) := by
  induction schedule generalizing s with
  | nil => rfl
  | cons e schedule ih =>
    have hhead := entries_use s e.1 b e.2 policy
    have hrest := ih (s.use e.1 e.2).after
    simp only [run_cons, List.countP_cons, decide_eq_true_eq]
    omega

/-! ## Runs on a new stack -/

section

variable {m : Metrics} {schedule : List (String × ScopeAction)} {u : ScopeUse}

theorem use_of_mem (h : u ∈ (run m schedule).transitions) : ∃ s b a, u = use s b a := by
  obtain ⟨first, e, -, -, hstep⟩ := System.run_mem h
  exact ⟨_, e.1, e.2, (Option.some.inj hstep).symm⟩

/-- Each action of a run finds the entries that were accepted before it and have not left. -/
theorem entries_before {earlier later : List ScopeUse}
    (h : (run m schedule).transitions = earlier ++ u :: later) (b : String) (policy : Policy) :
    earlier.countP (·.Accepts b policy) =
      (u.before.scopes.frame b).entries policy + earlier.countP (·.Leaves b policy) := by
  obtain ⟨first, e, rest, -, rfl, hstep, -⟩ := System.run_split h
  have hbefore : u.before = (run m first).final := by
    rw [← Option.some.inj hstep]
    rfl
  have hentries := entries_run ⟨{}, m⟩ first b policy
  have hnone : ((⟨{}, m⟩ : CountedScopes).scopes.frame b).entries policy = 0 := by
    cases policy <;> rfl
  rw [hnone, Nat.zero_add] at hentries
  rw [hbefore]
  exact hentries

theorem exits_of_mem {policy : Policy} (h : u ∈ (run m schedule).transitions)
    (haction : u.action = .leave policy) : u.Exits policy := by
  obtain ⟨s, b, a, rfl⟩ := use_of_mem h
  obtain rfl : a = .leave policy := haction
  exact exits_leave s b policy

end

/-- A schedule on a new stack, as the plain model has it. -/
structure Total (m : Metrics) (schedule : List (String × ScopeAction)) : Prop where
  answers : (run m schedule).transitions.map (·.answer) =
    (Tallies.run schedule).transitions.map (·.answer)
  tallies : (run m schedule).final.scopes.tallies = (Tallies.run schedule).final
  /-- No count of the plain model is ever below zero. -/
  nonneg : ∀ b, 0 ≤ ((Tallies.run schedule).final b).skipped ∧
    0 ≤ ((Tallies.run schedule).final b).internalDepth
  tidy : (run m schedule).final.scopes.Tidy
  /-- There is nothing that taking idle frames away once more could change. -/
  swept : ∀ b, (run m schedule).final.scopes.keep b ((run m schedule).final.scopes.frame b) =
    (run m schedule).final.scopes
  /-- The actions on a boundary are answered as if there were no others. -/
  boundaries : ∀ b, answersTo (·.1 = b) m schedule = answersTo (·.1 = b) m
    (schedule.filter (·.1 = b))
  /-- The actions under a policy are answered as if there were no others. -/
  policies : ∀ policy, answersTo (·.2.policy? = some policy) m schedule =
    answersTo (·.2.policy? = some policy) m (schedule.filter (·.2.policy? = some policy))
  /-- Whatever comes next finds the entries that were accepted before and have not left. -/
  entries : ∀ earlier u later, (run m schedule).transitions = earlier ++ u :: later →
    ∀ b policy, earlier.countP (·.Accepts b policy) =
      (u.before.scopes.frame b).entries policy + earlier.countP (·.Leaves b policy)
  exits : ∀ u ∈ (run m schedule).transitions, ∀ policy, u.action = .leave policy →
    u.Exits policy
  counted : ∀ u ∈ (run m schedule).transitions, ∀ c, u.after.metrics.count c =
    u.before.metrics.count c +
      if c = .misused u.boundary ∧ u.answer = .refused ⟨u.boundary⟩ then 1 else 0

/-- Frames that come and go are a total function, however a stack is used. -/
theorem frames_total (m : Metrics) (schedule : List (String × ScopeAction)) :
    Total m schedule := by
  obtain ⟨hanswers, htallies⟩ := run_tallies ⟨{}, m⟩ schedule
  have htidy := tidy_final m schedule
  refine
    { answers := hanswers
      tallies := htallies
      nonneg := fun b => ?_
      tidy := htidy
      swept := htidy.keep_frame
      boundaries := fun b => (overlooked_boundary b).answersTo_filter rfl m schedule
      policies := fun policy =>
        (overlooked_policy policy).answersTo_filter (fun _ => rfl) m schedule
      entries := fun earlier u later => entries_before
      exits := fun u hu policy => exits_of_mem hu
      counted := fun u hu c => ?_ }
  · -- the plain model has the counts of a frame, which are natural numbers
    have hline : (Tallies.run schedule).final b = _ := congrFun htallies.symm b
    rw [hline]
    exact ⟨Int.natCast_nonneg _, Int.natCast_nonneg _⟩
  · obtain ⟨s, b, a, rfl⟩ := use_of_mem hu
    exact count_use s b a c

end CountedScopes

end ShadowTraffic
