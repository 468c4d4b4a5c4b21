import ShadowTraffic.Proofs.Scenario.Opening
import ShadowTraffic.Proofs.Scope.Counts

/-! # Bodies and the guard

The bodies of a task that runs a call tree are matched with what was opened for them. On every
stack that the tree uses the guard counts just the calls that are open; and on the current one these
are the calls up to the innermost logical call of its own.
-/

namespace ShadowTraffic.Scenario

/-! ## Open calls -/

/-- The stack, the boundary and the policy of a call's attempt. -/
def Activation.attempt? (a : Activation) : Option (StackId × String × Policy) :=
  match a.ending with
  | .call _ e => e.ticket.map fun (k, t) => (k, t.boundary, t.policy)
  | _ => none

/-- What was opened for a call holds an attempt with the boundary and the policy of the call, and
nothing else holds any. -/
def Activation.Holds (a : Activation) : Opening → Prop
  | .call b policy => ∃ k, a.attempt? = some (k, b, policy)
  | _ => a.attempt? = none

/-- How many attempts some bodies hold on a boundary of a stack. -/
def opened (k : StackId) (b : String) (bodies : List Activation) (policy : Policy) : Nat :=
  (bodies.filterMap Activation.attempt?).count (k, b, policy)

/-- The frame that some bodies are in. -/
def frameOf (bodies : List Activation) : Option FrameId :=
  bodies.findSome? (·.frame)

section

variable {a : Activation} {outer bodies bodies' : List Activation} {k j : StackId}
  {b : String} {policy : Policy}

theorem opened_cons_none (h : a.attempt? = none) : opened k b (a :: outer) = opened k b outer := by
  funext policy
  rw [opened, List.filterMap_cons_none h, opened]

theorem opened_cons_self (h : a.attempt? = some (k, b, policy)) :
    opened k b (a :: outer) = policy.more (opened k b outer) := by
  funext p
  rw [opened, List.filterMap_cons_some h, Policy.more]
  by_cases hp : p = policy
  · rw [hp, List.count_cons_self, Function.update_self]
    rfl
  · rw [Function.update_of_ne hp, List.count_cons_of_ne]
    · rfl
    · rintro ⟨⟩
      exact hp rfl

theorem opened_cons_ne {b' : String} (h : a.attempt? = some (k, b, policy))
    (hne : j ≠ k ∨ b' ≠ b) : opened j b' (a :: outer) = opened j b' outer := by
  funext p
  rw [opened, List.filterMap_cons_some h, List.count_cons_of_ne]
  · rfl
  · rintro ⟨⟩
    rcases hne with hk | hb
    · exact hk rfl
    · exact hb rfl

theorem opened_eq_zero (h : ∀ a ∈ bodies, ∀ policy, a.attempt? ≠ some (k, b, policy)) :
    opened k b bodies = fun _ => 0 := by
  funext policy
  rw [opened, List.count_eq_zero]
  intro hmem
  obtain ⟨a, ha, hattempt⟩ := List.mem_filterMap.mp hmem
  exact h a ha policy hattempt

theorem Activation.Continues.attempt?_eq {a' : Activation} (h : a.Continues a') :
    a'.attempt? = a.attempt? := by
  rcases h.ending with hsame | ⟨path, e, phase, ha, -, -, ha'⟩
  · rw [attempt?, hsame, attempt?]
  · rw [attempt?, ha', attempt?, ha]

theorem opened_continues (h : List.Forall₂ Activation.Continues bodies bodies') :
    opened k b bodies' = opened k b bodies := by
  have hattempts : bodies'.filterMap Activation.attempt? =
      bodies.filterMap Activation.attempt? := by
    induction h with
    | nil => rfl
    | cons head tail ih => simp only [List.filterMap_cons, head.attempt?_eq, ih]
  funext policy
  rw [opened, hattempts, opened]

theorem frameOf_continues (h : List.Forall₂ Activation.Continues bodies bodies') :
    frameOf bodies' = frameOf bodies := by
  induction h with
  | nil => rfl
  | cons head tail ih =>
    simp only [frameOf, List.findSome?_cons, head.frame] at ih ⊢
    rw [ih]

theorem frameOf_singleton (a : Activation) : frameOf [a] = a.frame := by
  rw [frameOf, List.findSome?_cons]
  cases a.frame <;> rfl

theorem frameOf_cons_some {f : FrameId} (h : a.frame = some f) :
    frameOf (a :: outer) = some f := by
  rw [frameOf, List.findSome?_cons, h]

theorem frameOf_cons_none (h : a.frame = none) : frameOf (a :: outer) = frameOf outer := by
  rw [frameOf, List.findSome?_cons, h, frameOf]

end

/-! ## Nested bodies -/

/-- A body in a frame of its own, around it others and below the frame a stack; what it was opened
for. -/
inductive Framed (g : Guard) (outer : List Activation) (a : Activation) (k : StackId) :
    Opening → Prop
  | fresh {path : Path} (hending : a.ending = .done path)
    (hnew : ∀ b, opened k b outer = fun _ => 0) : Framed g outer a k .fresh
  | snapshot {path : Path} (hending : a.ending = .done path)
    (hshared : k = g.current (frameOf outer)) : Framed g outer a k .snapshot
  | call {path : Path} {e : Envelope} {b : String} {policy : Policy}
    (hending : a.ending = .call path e)
    (hticket : e.ticket =
      some (k, ⟨b, policy, decide (policy.Accepts (opened k b outer))⟩))
    (hphase : e.phase.Reentrant ↔ ¬ policy.Accepts (opened k b outer))
    (hcurrent : k = g.current (frameOf outer) ∨
      frameOf outer = none ∧ ∀ b, opened k b outer = fun _ => 0) :
    Framed g outer a k (.call b policy)

/-- The bodies of a task and what they were opened for, on stacks that the tree uses. -/
inductive Nested (used : StackId → Prop) (g : Guard) : List Activation → List Opening → Prop
  | ended : Nested used g [] []
  | script {a : Activation} (hending : a.ending = .task)
    (hframe : ∀ f, a.frame = some f → ∃ k, g.stackOf? f = some k)
    (hused : used (g.current a.frame)) : Nested used g [a] [.body]
  | catching {a : Activation} {path : Path} {outer : List Activation} {trail : List Opening}
    (hending : a.ending = .caught path) (hframe : a.frame = none)
    (hused : used (g.current (frameOf outer)))
    (h : Nested used g outer trail) : Nested used g (a :: outer) (.body :: trail)
  | framed {a : Activation} {f : FrameId} {k : StackId} {o : Opening} {outer : List Activation}
    {trail : List Opening} (hframe : a.frame = some f) (hstack : g.stackOf? f = some k)
    (hused : used k) (hfor : Framed g outer a k o)
    (h : Nested used g outer trail) : Nested used g (a :: outer) (o :: trail)

section

variable {g : Guard} {a : Activation} {outer : List Activation} {k : StackId} {o : Opening}
  {t : Ticket} {path : Path}

theorem attempt?_of_task (h : a.ending = .task) : a.attempt? = none := by
  rw [Activation.attempt?, h]

theorem attempt?_of_caught (h : a.ending = .caught path) : a.attempt? = none := by
  rw [Activation.attempt?, h]

theorem attempt?_of_done (h : a.ending = .done path) : a.attempt? = none := by
  rw [Activation.attempt?, h]

theorem attempt?_of_call {e : Envelope} (h : a.ending = .call path e)
    (hticket : e.ticket = some (k, t)) : a.attempt? = some (k, t.boundary, t.policy) := by
  simp [Activation.attempt?, h, hticket]

theorem Framed.not_task (h : Framed g outer a k o) : a.ending ≠ .task := by
  intro htask
  cases h with
  | fresh hending hnew => cases hending.symm.trans htask
  | snapshot hending hshared => cases hending.symm.trans htask
  | call hending hticket hphase hcurrent => cases hending.symm.trans htask

theorem current_cons {f : FrameId} (h : a.frame = some f) (hstack : g.stackOf? f = some k) :
    g.current (frameOf (a :: outer)) = k := by
  rw [frameOf_cons_some h]
  simp [Guard.current, hstack]

end

namespace Nested

variable {used : StackId → Prop} {g g' : Guard} {bodies bodies' : List Activation}
  {trail : List Opening} {k : StackId} {b : String} {policy : Policy}

theorem holds (h : Nested used g bodies trail) : List.Forall₂ Activation.Holds bodies trail := by
  induction h with
  | ended => exact .nil
  | script hending hframe hused => exact .cons (attempt?_of_task hending) .nil
  | catching hending hframe hused h ih => exact .cons (attempt?_of_caught hending) ih
  | framed hframe hstack hused hfor h ih =>
    refine .cons ?_ ih
    cases hfor with
    | fresh hending hnew => exact attempt?_of_done hending
    | snapshot hending hshared => exact attempt?_of_done hending
    | call hending hticket hphase hcurrent => exact ⟨_, attempt?_of_call hending hticket⟩

theorem length_eq (h : Nested used g bodies trail) : trail.length = bodies.length :=
  h.holds.length_eq.symm

/-- The body of the task is at the bottom, as nothing else ends like it. -/
theorem rooted (h : Nested used g bodies trail) (inner : List Activation) (a : Activation)
    (outer : List Activation) (hsplit : bodies = inner ++ a :: outer)
    (ha : a.ending = .task) : outer = [] := by
  induction h generalizing inner with
  | ended => simp at hsplit
  | script hending hframe hused =>
    cases inner with
    | nil =>
      cases hsplit
      rfl
    | cons c inner => simp at hsplit
  | catching hending hframe hused h ih =>
    cases inner with
    | nil =>
      cases hsplit
      cases hending.symm.trans ha
    | cons c inner =>
      cases hsplit
      exact ih inner rfl
  | framed hframe hstack hused hfor h ih =>
    cases inner with
    | nil =>
      cases hsplit
      exact absurd ha hfor.not_task
    | cons c inner =>
      cases hsplit
      exact ih inner rfl

/-! ### The current stack -/

/-- The current frame has a stack. -/
theorem frame_known (h : Nested used g bodies trail) {f : FrameId}
    (hf : frameOf bodies = some f) : ∃ k, g.stackOf? f = some k := by
  induction h with
  | ended => cases hf
  | script hending hframe hused =>
    rw [frameOf_singleton] at hf
    exact hframe f hf
  | catching hending hframe hused h ih =>
    rw [frameOf_cons_none hframe] at hf
    exact ih hf
  | framed hframe hstack hused hfor h ih =>
    rw [frameOf_cons_some hframe] at hf
    cases hf
    exact ⟨_, hstack⟩

/-- The tree uses the current stack. -/
theorem used_current (h : Nested used g bodies trail) (hbodies : bodies ≠ []) :
    used (g.current (frameOf bodies)) := by
  cases h with
  | ended => exact absurd rfl hbodies
  | script hending hframe hused => rwa [frameOf_singleton]
  | catching hending hframe hused h => rwa [frameOf_cons_none hframe]
  | framed hframe hstack hused hfor h => rwa [current_cons hframe hstack]

/-- Whoever holds an attempt was opened for a call, in a frame on the stack of the attempt. -/
theorem attempted (h : Nested used g bodies trail) {a : Activation} (ha : a ∈ bodies)
    (hattempt : a.attempt? = some (k, b, policy)) :
    .call b policy ∈ trail ∧ ∃ f, a.frame = some f ∧ g.stackOf? f = some k := by
  induction h with
  | ended => cases ha
  | script hending hframe hused =>
    rw [List.mem_singleton.mp ha, attempt?_of_task hending] at hattempt
    cases hattempt
  | catching hending hframe hused h ih =>
    rcases List.mem_cons.mp ha with rfl | ha
    · rw [attempt?_of_caught hending] at hattempt
      cases hattempt
    · obtain ⟨hcall, hheld⟩ := ih ha
      exact ⟨List.mem_cons_of_mem _ hcall, hheld⟩
  | framed hframe hstack hused hfor h ih =>
    rcases List.mem_cons.mp ha with rfl | ha
    · cases hfor with
      | fresh hending hnew =>
        rw [attempt?_of_done hending] at hattempt
        cases hattempt
      | snapshot hending hshared =>
        rw [attempt?_of_done hending] at hattempt
        cases hattempt
      | call hending hticket hphase hcurrent =>
        rw [attempt?_of_call hending hticket] at hattempt
        cases hattempt
        exact ⟨List.mem_cons_self, _, hframe, hstack⟩
    · obtain ⟨hcall, hheld⟩ := ih ha
      exact ⟨List.mem_cons_of_mem _ hcall, hheld⟩

/-- Outside any frame there is no call. -/
theorem opened_of_unframed (h : Nested used g bodies trail) (hframe : frameOf bodies = none)
    (k : StackId) (b : String) : opened k b bodies = fun _ => 0 := by
  refine opened_eq_zero fun a ha policy hattempt => ?_
  obtain ⟨-, f, hf, -⟩ := h.attempted ha hattempt
  have hnone := List.findSome?_eq_none_iff.mp hframe a ha
  rw [hf] at hnone
  cases hnone

/-- Without a call nothing is open on any stack. -/
theorem opened_of_no_call (h : Nested used g bodies trail)
    (hcalls : ∀ b policy, .call b policy ∉ trail) (k : StackId) (b : String) :
    opened k b bodies = fun _ => 0 :=
  opened_eq_zero fun _ ha policy hattempt => hcalls b policy (h.attempted ha hattempt).1

/-- A stack that is not there yet holds no call. -/
theorem opened_of_le (h : Nested used g bodies trail)
    (hlinked : ∀ f k, g.stackOf? f = some k → k < g.scopeStacks.size)
    (hk : g.scopeStacks.size ≤ k) (b : String) : opened k b bodies = fun _ => 0 := by
  refine opened_eq_zero fun a ha policy hattempt => ?_
  obtain ⟨-, f, -, hstack⟩ := h.attempted ha hattempt
  exact Nat.not_lt_of_le hk (hlinked f k hstack)

/-- A call counts the same attempts around it as if it were on the stack around it. -/
theorem opened_around (h : Nested used g bodies trail)
    (hcurrent : k = g.current (frameOf bodies) ∨
      frameOf bodies = none ∧ ∀ b, opened k b bodies = fun _ => 0) (b : String) :
    opened k b bodies = opened (g.current (frameOf bodies)) b bodies := by
  rcases hcurrent with rfl | ⟨hunframed, hnew⟩
  · rfl
  · rw [hnew, h.opened_of_unframed hunframed]

/-- Of the calls on the current stack exactly those are open that lie inside the innermost logical
call of its own. -/
theorem opened_current (h : Nested used g bodies trail) (b : String) (policy : Policy) :
    opened (g.current (frameOf bodies)) b bodies policy =
      (trail.takeWhile (· ≠ .fresh)).count (.call b policy) := by
  induction h with
  | ended => rfl
  | script hending hframe hused =>
    rw [opened_cons_none (attempt?_of_task hending)]
    rfl
  | catching hending hframe hused h ih =>
    rw [opened_cons_none (attempt?_of_caught hending), frameOf_cons_none hframe, ih]
    simp
  | @framed a f k o outer trail hframe hstack hused hfor h ih =>
    rw [current_cons hframe hstack]
    cases hfor with
    | fresh hending hnew =>
      rw [opened_cons_none (attempt?_of_done hending), hnew]
      simp
    | snapshot hending hshared =>
      rw [opened_cons_none (attempt?_of_done hending), hshared, ih]
      simp
    | @call path e b' policy' hending hticket hphase hcurrent =>
      have houter : opened k b outer policy =
          (trail.takeWhile (· ≠ .fresh)).count (.call b policy) := by
        rw [h.opened_around hcurrent, ih]
      have hattempt := attempt?_of_call hending hticket
      have hsame : ((k, b', policy') == (k, b, policy)) =
          (Opening.call b' policy' == .call b policy) := by
        rw [Bool.eq_iff_iff]
        simp
      rw [List.takeWhile_cons_of_pos (by simp), opened, List.filterMap_cons_some hattempt,
        List.count_cons, List.count_cons, ← houter, ← hsame]
      rfl

/-- Every call is a nested invocation exactly when its policy is the boundary policy and a call
around it, in the same logical call, has the same boundary and that policy. -/
theorem reentrant_iff (h : Nested used g bodies trail) {inner outer : List Opening}
    (hsplit : trail = inner ++ .call b policy :: outer) :
    ∃ a path e, bodies[inner.length]? = some a ∧ a.ending = .call path e ∧
      (e.phase.Reentrant ↔
        policy = .boundary ∧ .call b .boundary ∈ outer.takeWhile (· ≠ .fresh)) := by
  induction h generalizing inner with
  | ended => simp at hsplit
  | script hending hframe hused => cases inner <;> simp at hsplit
  | catching hending hframe hused h ih =>
    cases inner with
    | nil => cases hsplit
    | cons o inner =>
      cases hsplit
      exact ih rfl
  | @framed a f k o around trail hframe hstack hused hfor h ih =>
    cases inner with
    | cons o inner =>
      cases hsplit
      exact ih rfl
    | nil =>
      cases hsplit
      cases hfor with
      | @call path e b policy hending hticket hphase hcurrent =>
        have haround : opened k b around .boundary =
            (outer.takeWhile (· ≠ .fresh)).count (.call b .boundary) := by
          rw [h.opened_around hcurrent, h.opened_current]
        refine ⟨a, path, e, rfl, hending, ?_⟩
        rw [hphase, ← List.count_pos_iff, ← haround, Policy.Accepts, not_or]
        cases policy <;> simp [Nat.pos_iff_ne_zero]

/-- Of a chain of calls on one boundary only the outermost is mediated. -/
theorem reentrant_chain {depth : Nat}
    (h : Nested used g bodies (List.replicate depth (.call b .boundary) ++ [.body])) {i : Nat}
    (hi : i < depth) :
    ∃ a path e, bodies[i]? = some a ∧ a.ending = .call path e ∧
      (e.phase.Reentrant ↔ i + 1 < depth) := by
  have hsplit : List.replicate depth (Opening.call b .boundary) ++ [.body] =
      List.replicate i (.call b .boundary) ++ .call b .boundary ::
        (List.replicate (depth - (i + 1)) (.call b .boundary) ++ [.body]) := by
    rw [← List.cons_append, ← List.replicate_succ, ← List.append_assoc,
      List.replicate_append_replicate]
    congr 2
    omega
  obtain ⟨a, path, e, ha, hending, hphase⟩ := h.reentrant_iff hsplit
  rw [List.length_replicate] at ha
  refine ⟨a, path, e, ha, hending, hphase.trans ?_⟩
  rw [List.takeWhile_append_of_pos (by simp [List.mem_replicate])]
  simp only [List.mem_append, List.mem_replicate]
  simp
  omega

/-! ### Going on -/

theorem current_eq (h : Nested used g bodies trail)
    (hframes : ∀ f k, g.stackOf? f = some k → g'.stackOf? f = some k) :
    g'.current (frameOf bodies) = g.current (frameOf bodies) := by
  cases hf : frameOf bodies with
  | none => rfl
  | some f =>
    obtain ⟨k, hk⟩ := h.frame_known hf
    simp [Guard.current, hk, hframes f k hk]

/-- Frames that are made do not matter to those that are there. -/
theorem mono (h : Nested used g bodies trail)
    (hframes : ∀ f k, g.stackOf? f = some k → g'.stackOf? f = some k) :
    Nested used g' bodies trail := by
  induction h with
  | ended => exact .ended
  | @script a hending hframe hused =>
    have hscript : Nested used g [a] [.body] := .script hending hframe hused
    have hcurrent := hscript.current_eq hframes
    rw [frameOf_singleton] at hcurrent
    refine .script hending (fun f hf => ?_) (by rwa [hcurrent])
    obtain ⟨k, hk⟩ := hframe f hf
    exact ⟨k, hframes f k hk⟩
  | catching hending hframe hused h ih =>
    exact .catching hending hframe (by rwa [h.current_eq hframes]) ih
  | framed hframe hstack hused hfor h ih =>
    refine .framed hframe (hframes _ _ hstack) hused ?_ ih
    cases hfor with
    | fresh hending hnew => exact .fresh hending hnew
    | snapshot hending hshared =>
      exact .snapshot hending (hshared.trans (h.current_eq hframes).symm)
    | call hending hticket hphase hcurrent =>
      rw [← h.current_eq hframes] at hcurrent
      exact .call hending hticket hphase hcurrent

/-- Bodies in which the task has gone on. -/
theorem continues (h : Nested used g bodies trail)
    (hbodies : List.Forall₂ Activation.Continues bodies bodies') :
    Nested used g bodies' trail := by
  induction h generalizing bodies' with
  | ended =>
    cases hbodies
    exact .ended
  | @script a hending hframe hused =>
    cases hbodies with
    | cons head tail =>
      cases tail
      rw [← head.frame] at hframe hused
      exact .script (head.ending_of hending rfl) hframe hused
  | catching hending hframe hused h ih =>
    cases hbodies with
    | cons head tail =>
      rw [← frameOf_continues tail] at hused
      exact .catching (head.ending_of hending rfl) (head.frame.trans hframe) hused (ih tail)
  | @framed a f k o outer trail hframe hstack hused hfor h ih =>
    cases hbodies with
    | @cons _ a' _ outer' head tail =>
      refine .framed (head.frame.trans hframe) hstack hused ?_ (ih tail)
      cases hfor with
      | fresh hending hnew =>
        exact .fresh (head.ending_of hending rfl) fun b => (opened_continues tail).trans (hnew b)
      | snapshot hending hshared =>
        rw [← frameOf_continues tail] at hshared
        exact .snapshot (head.ending_of hending rfl) hshared
      | @call path e b policy hending hticket hphase hcurrent =>
        rw [← opened_continues tail] at hticket hphase
        rw [← frameOf_continues tail] at hcurrent
        have hcurrent' : k = g.current (frameOf outer') ∨
            frameOf outer' = none ∧ ∀ b, opened k b outer' = fun _ => 0 := by
          rcases hcurrent with hk | ⟨hunframed, hnew⟩
          · exact .inl hk
          · exact .inr ⟨hunframed, fun b => (opened_continues tail).trans (hnew b)⟩
        rcases head.ending with hsame | ⟨path', e', phase, hcall, he, hdecided, hdiffers⟩
        · exact .call (hsame.trans hending) hticket hphase hcurrent'
        · -- the mediator decides only for a call that was accepted
          cases hending.symm.trans hcall
          have haccepted : policy.Accepts (opened k b outer') := by
            by_contra hrejected
            have hreentrant := hphase.mpr hrejected
            rw [he] at hreentrant
            exact hreentrant
          exact .call hdiffers hticket (iff_of_false hdecided (not_not_intro haccepted))
            hcurrent'

end Nested

/-! ## What the guard counts -/

/-- On the stacks that the tree uses the guard counts the calls that are open, and all other stacks
are as they were before. -/
structure Tallied (used : StackId → Prop) (g₀ g : Guard) (bodies : List Activation)
    (trail : List Opening) : Prop where
  nested : Nested used g bodies trail
  thread : 0 < g.scopeStacks.size
  linked : ∀ f k, g.stackOf? f = some k → k < g.scopeStacks.size
  later : ∀ k, g.scopeStacks.size ≤ k → used k
  counted : ∀ k, used k → ∀ b, (g.scopes k).frame b = .ofCounts (opened k b bodies)
  others : ∀ k, ¬ used k → g.scopes k = g₀.scopes k

namespace Tallied

variable {used : StackId → Prop} {g₀ g : Guard} {bodies bodies' : List Activation}
  {trail : List Opening} {k : StackId} {b : String} {policy : Policy}

theorem continues (h : Tallied used g₀ g bodies trail)
    (hbodies : List.Forall₂ Activation.Continues bodies bodies') :
    Tallied used g₀ g bodies' trail :=
  { h with
    nested := h.nested.continues hbodies
    counted := fun k hk b => by rw [opened_continues hbodies, h.counted k hk b] }

/-- The current stack is there. -/
theorem current_lt (h : Tallied used g₀ g bodies trail) :
    g.current (frameOf bodies) < g.scopeStacks.size := by
  cases hf : frameOf bodies with
  | none => exact h.thread
  | some f =>
    obtain ⟨k, hk⟩ := h.nested.frame_known hf
    simpa [Guard.current, hk] using h.linked f k hk

/-- A frame is made on a stack that is there. -/
theorem addFrame (h : Tallied used g₀ g bodies trail) (hk : k < g.scopeStacks.size)
    (t : TrafficContext) : Tallied used g₀ (g.addFrame t k) bodies trail :=
  { h with
    nested := h.nested.mono fun f j hj => Guard.stackOf?_addFrame_of_some hj
    linked := fun f j hj => by
      rw [Guard.stackOf?_addFrame] at hj
      split at hj
      · cases hj
        exact hk
      · exact h.linked f j hj }

/-- A stack is made. -/
theorem addStack (h : Tallied used g₀ g bodies trail) :
    Tallied used g₀ g.addStack bodies trail where
  nested := h.nested.mono fun f j hj => hj
  thread := by simp [Guard.addStack]
  linked f j hj := by
    simp only [Guard.addStack, Array.size_push]
    exact Nat.lt_succ_of_lt (h.linked f j hj)
  later j hj := by
    simp only [Guard.addStack, Array.size_push] at hj
    exact h.later j (Nat.le_of_succ_le hj)
  counted j hj b := by rw [Guard.scopes_addStack, h.counted j hj b]
  others j hj := by rw [Guard.scopes_addStack, h.others j hj]

theorem newFrame (h : Tallied used g₀ g bodies trail) (t : TrafficContext) :
    Tallied used g₀ (g.addStack.addFrame t g.scopeStacks.size) bodies trail :=
  h.addStack.addFrame (by simp [Guard.addStack]) t

/-- The scopes of one stack are replaced together with the calls that are open on it. -/
theorem setScopes (h : Tallied used g₀ g bodies trail) (hused : used k)
    (hk : k < g.scopeStacks.size) {scopes : Scopes} {trail' : List Opening}
    (hnested : Nested used g bodies' trail')
    (hcounted : ∀ b, scopes.frame b = .ofCounts (opened k b bodies'))
    (hothers : ∀ j, j ≠ k → ∀ b, opened j b bodies' = opened j b bodies) :
    Tallied used g₀ (g.setScopes k scopes) bodies' trail' where
  nested := hnested.mono fun f j hj => hj
  thread := by
    rw [Guard.size_setScopes]
    exact h.thread
  linked f j hj := by
    rw [Guard.size_setScopes]
    exact h.linked f j hj
  later j hj := by
    rw [Guard.size_setScopes] at hj
    exact h.later j hj
  counted j hj b := by
    rw [Guard.scopes_setScopes hk]
    by_cases heq : j = k
    · rw [if_pos heq, heq, hcounted]
    · rw [if_neg heq, hothers j heq, h.counted j hj]
  others j hj := by
    have hne : j ≠ k := by
      rintro rfl
      exact hj hused
    rw [Guard.scopes_setScopes hk, if_neg hne, h.others j hj]

/-- A call is entered on its stack. -/
theorem enter {outer : List Activation} (h : Tallied used g₀ g outer trail) {a : Activation}
    {path : Path} {e : Envelope} {f : FrameId} (hframe : a.frame = some f)
    (hstack : g.stackOf? f = some k) (hused : used k) (hending : a.ending = .call path e)
    (hticket : e.ticket = some (k, ((g.scopes k).enter b policy).1))
    (hphase : e.phase.Reentrant ↔ ((g.scopes k).enter b policy).1.entered = false)
    (hcurrent : k = g.current (frameOf outer) ∨
      frameOf outer = none ∧ ∀ b, opened k b outer = fun _ => 0) :
    Tallied used g₀ (g.setScopes k ((g.scopes k).enter b policy).2) (a :: outer)
      (.call b policy :: trail) := by
  rw [Scopes.enter_counts (h.counted k hused b) policy] at hticket hphase ⊢
  have hattempt := attempt?_of_call hending hticket
  refine h.setScopes hused (h.linked f k hstack) ?_ ?_ ?_
  · exact .framed hframe hstack hused
      (.call hending hticket (hphase.trans decide_eq_false_iff_not) hcurrent) h.nested
  · intro b'
    rw [Scopes.frame_keep]
    by_cases hb : b' = b
    · rw [if_pos hb, hb, opened_cons_self hattempt]
    · rw [if_neg hb, opened_cons_ne hattempt (.inr hb), h.counted k hused]
  · intro j hj b'
    exact opened_cons_ne hattempt (.inl hj)

/-- The innermost body is left, and what it holds is undone. -/
theorem leave {w : World} {a : Activation} {outer : List Activation} {o : Opening}
    (h : Tallied used g₀ w.guard (a :: outer) (o :: trail)) :
    Tallied used g₀ (a.ending.cleanUp w).guard outer trail := by
  -- only a call holds anything
  have hheld (hguard : (a.ending.cleanUp w).guard = w.guard) (hnone : a.attempt? = none)
      (hnested : Nested used w.guard outer trail) :
      Tallied used g₀ (a.ending.cleanUp w).guard outer trail := by
    rw [hguard]
    exact { h with
      nested := hnested
      counted := fun k hk b => by rw [h.counted k hk b, opened_cons_none hnone] }
  cases h.nested with
  | script hending hframe hused =>
    exact hheld (by rw [hending]; rfl) (attempt?_of_task hending) .ended
  | catching hending hframe hused hnested =>
    exact hheld (by rw [hending]; rfl) (attempt?_of_caught hending) hnested
  | @framed _ f k _ _ _ hframe hstack hused hfor hnested =>
    cases hfor with
    | fresh hending hnew =>
      exact hheld (by rw [hending]; rfl) (attempt?_of_done hending) hnested
    | snapshot hending hshared =>
      exact hheld (by rw [hending]; rfl) (attempt?_of_done hending) hnested
    | @call path e b policy hending hticket hphase hcurrent =>
      have hattempt := attempt?_of_call hending hticket
      have hcounted := h.counted k hused b
      rw [opened_cons_self hattempt] at hcounted
      have hcleanUp : (a.ending.cleanUp w).guard =
          w.guard.setScopes k ((w.guard.scopes k).keep b (.ofCounts (opened k b outer))) := by
        rw [hending, Ending.cleanUp]
        simp only [hticket, World.guard_dropTicket, Scopes.exit_counts hcounted]
      rw [hcleanUp]
      refine h.setScopes hused (h.linked f k hstack) hnested ?_ ?_
      · intro b'
        rw [Scopes.frame_keep]
        by_cases hb : b' = b
        · rw [if_pos hb, hb]
        · rw [if_neg hb, h.counted k hused, opened_cons_ne hattempt (.inr hb)]
      · intro j hj b'
        exact (opened_cons_ne hattempt (.inl hj)).symm

theorem undo {w : World} (h : Tallied used g₀ w.guard bodies trail) (left : Nat) :
    Tallied used g₀ (Machine.undo (bodies.take left) w).guard (bodies.drop left)
      (trail.drop left) := by
  induction left generalizing w bodies trail with
  | zero => exact h
  | succ left ih =>
    cases bodies with
    | nil =>
      have htrail : trail = [] := List.length_eq_zero_iff.mp h.nested.length_eq
      rw [htrail] at h ⊢
      exact h
    | cons a outer =>
      cases trail with
      | nil => cases h.nested
      | cons o trail => exact ih h.leave

/-- One more body is opened. -/
theorem opens {w w' : World} {here : Place} {a : Activation} {o : Opening}
    (hopened : Opened w here a w' o) (hplace : here.frame = frameOf bodies)
    (hbodies : bodies ≠ []) (h : Tallied used g₀ w.guard bodies trail) :
    Tallied used g₀ w'.guard (a :: bodies) (o :: trail) := by
  have hcurrent := h.nested.used_current hbodies
  have hlater := h.later _ (Nat.le_refl _)
  have hnew := h.nested.opened_of_le h.linked (Nat.le_refl _)
  -- a body that is no attempt on a boundary leaves all counts as they are
  have hquiet {g : Guard} (hg : Tallied used g₀ g bodies trail) (hguard : w'.guard = g)
      (hnone : a.attempt? = none) (hnested : Nested used g (a :: bodies) (o :: trail)) :
      Tallied used g₀ w'.guard (a :: bodies) (o :: trail) := by
    rw [hguard]
    exact { hg with
      nested := hnested
      counted := fun k hk b => by rw [hg.counted k hk b, opened_cons_none hnone] }
  cases hopened with
  | body hending hframe hguard =>
    exact hquiet h hguard (attempt?_of_caught hending)
      (.catching hending hframe hcurrent h.nested)
  | fresh t hending hframe hguard =>
    have hframed := h.newFrame t
    refine hquiet hframed hguard (attempt?_of_done hending) ?_
    exact .framed hframe Guard.stackOf?_addFrame_self hlater (.fresh hending hnew) hframed.nested
  | snapshot hending hframe hguard =>
    have hframed := h.addFrame h.current_lt ((w.current? here).getD {})
    rw [World.guard_capture, hplace] at hguard
    refine hquiet hframed hguard (attempt?_of_done hending) ?_
    refine .framed hframe Guard.stackOf?_addFrame_self hcurrent (.snapshot hending ?_)
      hframed.nested
    exact (h.nested.current_eq fun f j hj => Guard.stackOf?_addFrame_of_some hj).symm
  | call x resource hending hticket hphase hframe hguard =>
    obtain ⟨g, hplaced, hstack, hentered, hafter⟩ := World.guard_intercept w here x resource
    rw [hguard, hafter]
    rw [hentered] at hticket hphase
    -- in a frame the call joins the stack there; outside any its own stack is new and idle
    rcases hplaced with ⟨hinside, rfl⟩ | ⟨hunframed, hmade, rfl⟩
    · rw [hplace] at hinside
      obtain ⟨k, hk⟩ := h.nested.frame_known hinside
      have hstack' : (w.intercept here x resource).1.stack = k := by
        rw [hstack]
        simp [Guard.current, hk]
      rw [← hinside] at hstack
      rw [← hstack] at hcurrent
      rw [← hstack'] at hk
      exact h.enter hframe hk hcurrent hending hticket hphase (.inl hstack)
    · rw [hplace] at hunframed
      have hk := Guard.stackOf?_addFrame_self (g := w.guard.addStack) (t := {})
        (k := w.guard.scopeStacks.size)
      have hstack' : (w.intercept here x resource).1.stack = w.guard.scopeStacks.size := by
        rw [hstack, hmade]
        exact congrArg (Option.getD · 0) hk
      rw [← hstack'] at hnew hlater
      refine (h.newFrame {}).enter hframe ?_ hlater hending hticket hphase
        (.inr ⟨hunframed, hnew⟩)
      rw [hmade, hstack']
      exact hk

end Tallied

end ShadowTraffic.Scenario
