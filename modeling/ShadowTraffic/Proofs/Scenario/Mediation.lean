import ShadowTraffic.Proofs.Scenario.Nesting

/-! # Mediation fires once for each outer call

A call tree runs as the script of a task. Along its run it is told what the task is inside of, from
the steps that were opened and left; the machine itself keeps no such account. At every moment a
call is a nested invocation exactly when the account says so, and the guard is idle on every stack
that the tree uses when no call is open.
-/

namespace ShadowTraffic.Scenario

namespace Machine

variable {m m' : Machine} {used : StackId → Prop} {g₀ : Guard} {inside : List Opening}

/-- What the task is inside of after a small step, innermost first. -/
def follow (m m' : Machine) (inside : List Opening) : List Opening :=
  let before := (m.task 0).activations.length
  let after := (m'.task 0).activations.length
  if before < after then m.opening :: inside else inside.drop (before - after)

/-- What the task is inside of after so many small steps. -/
def trail : Nat → Machine → List Opening → List Opening
  | 0, _, inside => inside
  | bound + 1, m, inside =>
    match m.step? with
    | some m' => trail bound m' (m.follow m' inside)
    | none => inside

/-- The account of what the task is inside of is right. -/
structure Follows (used : StackId → Prop) (g₀ : Guard) (m : Machine) (inside : List Opening) :
    Prop where
  size : m.tasks.size = 1
  looks : (m.task 0).Looks
  mediating : ∀ a ∈ (m.task 0).activations, ∀ s ∈ a.rest, s.Mediating
  tallied : Tallied used g₀ m.world.guard (m.task 0).activations inside

theorem Follows.alone (h : Follows used g₀ m inside) : m.Alone where
  size := h.size
  looks := h.looks
  rooted := h.tallied.nested.rooted
  mediating := h.mediating

theorem mediating_continues {bodies bodies' : List Activation}
    (h : List.Forall₂ Activation.Continues bodies bodies')
    (hmediating : ∀ a ∈ bodies, ∀ s ∈ a.rest, s.Mediating) :
    ∀ a ∈ bodies', ∀ s ∈ a.rest, s.Mediating := by
  induction h with
  | nil => simp
  | cons head tail ih =>
    intro a ha s hs
    rcases List.mem_cons.mp ha with rfl | ha
    · exact hmediating _ List.mem_cons_self s (head.rest hs)
    · exact ih (fun b hb => hmediating b (List.mem_cons_of_mem _ hb)) a ha s hs

theorem Follows.step (h : Follows used g₀ m inside)
    (hstep : m.step? = some m') : Follows used g₀ m' (m.follow m' inside) := by
  have hlength := h.tallied.nested.length_eq
  -- the number of bodies tells which of the three the step does, and so what to follow
  rcases h.alone.step hstep with hgoes | ⟨left, hleaves⟩ | ⟨hbodies, hopens⟩
  · have hfollow : m.follow m' inside = inside := by
      simp [follow, hgoes.bodies.length_eq]
    rw [hfollow]
    refine ⟨hgoes.size.trans h.size, hgoes.looks, mediating_continues hgoes.bodies h.mediating, ?_⟩
    rw [hgoes.guard]
    exact h.tallied.continues hgoes.bodies
  · have hfollow : m.follow m' inside = inside.drop left := by
      have hafter := hleaves.bodies.length_eq
      rw [List.length_drop] at hafter
      unfold follow
      dsimp only
      rw [if_neg (by omega), ← hafter]
      by_cases hle : left ≤ (m.task 0).activations.length
      · rw [Nat.sub_sub_self hle]
      · rw [List.drop_of_length_le (by omega), List.drop_of_length_le (by omega)]
    rw [hfollow]
    refine ⟨hleaves.size.trans h.size, hleaves.looks, ?_, ?_⟩
    · refine mediating_continues hleaves.bodies fun a ha => ?_
      exact h.mediating a (List.mem_of_mem_drop ha)
    · rw [hleaves.guard]
      exact (h.tallied.undo left).continues hleaves.bodies
  · obtain ⟨a, outer, hafter, houter, hopened, hrest⟩ := hopens.bodies
    have hfollow : m.follow m' inside = m.opening :: inside := by
      simp [follow, hafter, houter.length_eq]
    rw [hfollow]
    refine ⟨hopens.size.trans h.size, hopens.looks, ?_, ?_⟩
    · rw [hafter]
      intro b hb
      rcases List.mem_cons.mp hb with rfl | hb
      · exact hrest
      · exact mediating_continues houter h.mediating b hb
    · rw [hafter]
      have htallied := Tallied.opens hopened rfl hbodies h.tallied
      exact htallied.continues (.cons (.refl a) houter)

theorem Follows.run (h : Follows used g₀ m inside) (bound : Nat) :
    Follows used g₀ (m.run bound) (m.trail bound inside) := by
  induction bound generalizing m inside with
  | zero => exact h
  | succ bound ih =>
    rw [Machine.run, Machine.trail]
    cases hstep : m.step? with
    | none => exact h
    | some m' => exact ih (h.step hstep)

/-- A stack belongs to a call tree that starts here: it is the current one, or is made later. -/
def Uses (m : Machine) (k : StackId) : Prop :=
  k = m.world.currentStack (m.place 0) ∨ m.world.scopeStacks.size ≤ k

/-- The only task starts a call tree, where no attempt is open. -/
structure Begins (m : Machine) : Prop where
  task : ∃ t a, m.tasks = #[t] ∧ t.activations = [a] ∧ t.focus = .stepping ∧
    a.ending = .task ∧ ∀ s ∈ a.rest, s.Mediating
  /-- The thread has a stack, and so have the frames. -/
  thread : 0 < m.world.scopeStacks.size
  linked : ∀ f k, m.world.guard.stackOf? f = some k → k < m.world.scopeStacks.size
  framed : ∀ f, (m.place 0).frame = some f → ∃ k, m.world.guard.stackOf? f = some k
  idle : ∀ b, (m.world.scopes (m.world.currentStack (m.place 0))).depth b = 0

theorem Begins.follows (h : m.Begins) : Follows m.Uses m.world.guard m [.body] := by
  obtain ⟨t, a, htasks, hbodies, hfocus, hending, hmediating⟩ := h.task
  have htask : m.task 0 = t := by
    rw [Machine.task, htasks]
    rfl
  have hplace : (m.place 0).frame = a.frame := by
    rw [place, htask, hbodies]
    exact frameOf_singleton a
  refine ⟨by rw [htasks]; rfl, ?_, ?_, ?_⟩
  · rw [htask]
    exact .of_stepping hfocus
  · rw [htask, hbodies]
    simpa using hmediating
  · have hnested : Nested m.Uses m.world.guard [a] [.body] := by
      refine .script hending (fun f hf => h.framed f (hplace.trans hf)) (.inl ?_)
      rw [World.currentStack_eq, hplace]
    rw [htask, hbodies]
    refine ⟨hnested, h.thread, h.linked, fun k hk => .inr hk, ?_, fun k _ => rfl⟩
    intro k hk b
    rw [hnested.opened_of_no_call (by simp), Frame.ofCounts_none, ← World.scopes_eq]
    rcases hk with rfl | hk
    · exact Frame.eq_of_depth_eq_zero (h.idle b)
    · rw [World.scopes, Array.getElem?_eq_none hk]
      rfl

/-- What is true of a call tree after so many small steps. -/
structure MediatedOnce (m : Machine) (bound : Nat) : Prop where
  /-- The account has an entry for every body that the task is inside of. -/
  account : List.Forall₂ Activation.Holds ((m.run bound).task 0).activations
    (m.trail bound [.body])
  /-- A call is a nested invocation exactly when it has the boundary policy and lies, in the same
  logical call, inside another call on its boundary with that policy. -/
  reentrant : ∀ inner outer b policy, m.trail bound [.body] = inner ++ .call b policy :: outer →
    ∃ a path e, ((m.run bound).task 0).activations[inner.length]? = some a ∧
      a.ending = .call path e ∧
      (e.phase.Reentrant ↔
        policy = .boundary ∧ .call b .boundary ∈ outer.takeWhile (· ≠ .fresh))
  /-- Of a chain of calls on one boundary only the outermost is mediated. -/
  chain : ∀ depth b,
    m.trail bound [.body] = List.replicate depth (.call b .boundary) ++ [.body] →
    ∀ i < depth, ∃ a path e, ((m.run bound).task 0).activations[i]? = some a ∧
      a.ending = .call path e ∧ (e.phase.Reentrant ↔ i + 1 < depth)
  /-- When no call is open, as when the tree has ended in whatever way, the guard is idle on every
  stack that the tree uses. -/
  idle : (∀ b policy, .call b policy ∉ m.trail bound [.body]) → ∀ k, m.Uses k → ∀ b,
    ((m.run bound).world.scopes k).state b = .idle ∧ ((m.run bound).world.scopes k).depth b = 0
  others : ∀ k, ¬ m.Uses k → (m.run bound).world.scopes k = m.world.scopes k

/-- A call tree that starts where no attempt is open is mediated once for each outer call, whatever
its calls come to. -/
theorem mediated_once (h : m.Begins) (bound : Nat) : MediatedOnce m bound := by
  have hfollows := h.follows.run bound
  have hnested := hfollows.tallied.nested
  refine ⟨hnested.holds, ?_, ?_, ?_, ?_⟩
  · intro inner outer b policy hsplit
    exact hnested.reentrant_iff hsplit
  · intro depth b hchain i hi
    rw [hchain] at hnested
    exact hnested.reentrant_chain hi
  · intro hcalls k hk b
    have hframe := hfollows.tallied.counted k hk b
    rw [hnested.opened_of_no_call hcalls, Frame.ofCounts_none, ← World.scopes_eq] at hframe
    rw [Scopes.state, Scopes.depth, hframe]
    exact ⟨rfl, rfl⟩
  · intro k hk
    exact hfollows.tallied.others k hk

/-- Inside a call on a boundary there is one more in a logical call of its own, and then one in a
snapshot, which panics. -/
def nestedTree : Machine :=
  let call (body : List Step) : Step := .intercept {
    service := .ok "s", factory := .ok "f", config := .ok { endpoint := some "a" }
    boundary := .ok "a", policy := none, substitute := none, resource := none, business := "x"
    script := { fail := none, write := "row" } } body
  { world := {
      factories := #[.noShadow]
      factoryNames := Dictionary.ofList [("f", 0)]
      registries := #[{}]
      dispatchers := #[{
        propagator := 0, enabled := true, flagFallback := false, whitelist := .empty }]
      services := Dictionary.ofList
        [("s", { registry := 0, dispatcher := 0, policy := .boundary })] }
    tasks := #[{ activations := [{
      ending := .task
      path := ""
      rest := [call [.block (.withContext none) [call []], .block .carry [call
        [.task (.panics "p")]]]] }] }]
    current := some 0 }

theorem begins_nestedTree : nestedTree.Begins where
  task := by
    refine ⟨_, _, rfl, rfl, rfl, rfl, List.forall_mem_singleton.mpr (.call ?_)⟩
    refine List.forall_mem_cons.mpr ⟨.fresh ?_, List.forall_mem_singleton.mpr (.snapshot ?_)⟩
    · exact List.forall_mem_singleton.mpr (.call (by simp))
    · exact List.forall_mem_singleton.mpr (.call (List.forall_mem_singleton.mpr .panics))
  thread := by decide
  linked f k hk := by cases hk
  framed f hf := by cases hf
  idle b := rfl

theorem mediated_once_nestedTree :
    (∃ a path e, ((nestedTree.run 3).task 0).activations[0]? = some a ∧
      a.ending = .call path e ∧ ¬ e.phase.Reentrant) ∧
    (∃ a path e, ((nestedTree.run 7).task 0).activations[0]? = some a ∧
      a.ending = .call path e ∧ e.phase.Reentrant) ∧
    ∀ b, ((nestedTree.run 8).world.scopes 1).state b = .idle ∧
      ((nestedTree.run 8).world.scopes 1).depth b = 0 := by
  have hfresh : nestedTree.trail 3 [.body] =
    [] ++ .call "a" .boundary :: [.fresh, .call "a" .boundary, .body] := rfl
  have hsnapshot : nestedTree.trail 7 [.body] =
    [] ++ .call "a" .boundary :: [.snapshot, .call "a" .boundary, .body] := rfl
  have hended : nestedTree.trail 8 [.body] = [] := rfl
  refine ⟨?_, ?_, ?_⟩
  · obtain ⟨a, path, e, ha, hending, hphase⟩ :=
      (mediated_once begins_nestedTree 3).reentrant _ _ _ _ hfresh
    exact ⟨a, path, e, ha, hending, fun h => absurd (hphase.mp h).2 (by decide)⟩
  · obtain ⟨a, path, e, ha, hending, hphase⟩ :=
      (mediated_once begins_nestedTree 7).reentrant _ _ _ _ hsnapshot
    exact ⟨a, path, e, ha, hending, hphase.mpr ⟨rfl, by decide⟩⟩
  · exact (mediated_once begins_nestedTree 8).idle (by simp [hended]) 1 (.inr (by decide))

end Machine

end ShadowTraffic.Scenario
