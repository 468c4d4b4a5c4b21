import ShadowTraffic.Proofs.Runs
import ShadowTraffic.Proofs.Scenario.Going
import ShadowTraffic.Proofs.Scope.Tickets

/-! # Bodies of tasks and where they come from

Tasks use the guard through intercepted calls alone. What a task runs is cut into bodies, each with
the frame it runs in: the task itself, what runs as a new call with a context, what runs in a
snapshot of a frame, now or later and here or in another task, and what an intercepted call runs.
A body acts whenever its turn comes, and ends at any time, by returning, unwinding or being
cancelled; so every nesting of bodies in tasks and every interleaving of tasks is an order of the
same actions. Beside its frame, a body has a trail of what it was begun in, which nothing reads.
-/

namespace ShadowTraffic.Scenario

/-- What a body can be begun in, told apart by numbers. -/
inductive Enclosure where
  /-- A new call with a context. -/
  | context (number : Nat)
  /-- An intercepted call. -/
  | call (number : Nat)
  /-- A snapshot of the frame that was current where it was taken. -/
  | snapshot
deriving DecidableEq

/-- Enclosures from the innermost to the outermost. -/
abbrev Trail := List Enclosure

/-- An intercepted call that was started. -/
structure Interception where
  number : Nat
  /-- Where it was started. -/
  trail : Trail
  stack : StackId
  ticket : Ticket
deriving DecidableEq

structure Body where
  frame : Option FrameId := none
  trail : Trail := []
  /-- The intercepted call that the body belongs to, to be undone when it ends. -/
  call : Option Interception := none
deriving DecidableEq

/-- A change of the world that touches no scope stack and leaves every frame its stack. -/
structure Elsewhere where
  change : World → World
  scopeStacks : ∀ w, (change w).guard.scopeStacks = w.guard.scopeStacks
  stackOf? : ∀ w f, (change w).guard.stackOf? f = w.guard.stackOf? f

/-- The world, and the bodies that have begun and not ended. -/
structure Bodies where
  world : World := {}
  live : List Body := []
  /-- How many calls have begun, intercepted ones and those with a context. -/
  begun : Nat := 0

inductive BodyAction where
  /-- A task begins, in no frame. -/
  | task
  | withContext (b : Body) (traffic : TrafficContext)
  /-- A snapshot is taken, for a body that runs now or later, here or in another task. -/
  | snapshot (b : Body)
  | intercept (b : Body) (span : Option SpanId) (x : CallArguments) (resource : Option String)
  | leave (b : Body)
  | elsewhere (e : Elsewhere)

/-- One action carried out. -/
structure BodyStep where
  before : Bodies
  action : BodyAction
  /-- The intercepted call that was started, in its first phase. -/
  started : Option (Interception × DispatchPhase String String) := none
  after : Bodies

namespace Bodies

def step (s : Bodies) (a : BodyAction) : Option BodyStep :=
  match a with
  | .task => some { before := s, action := a, after := { s with live := {} :: s.live } }
  | .withContext b traffic =>
    if b ∈ s.live then
      let (frame, world) := s.world.newFrame traffic
      some {
        before := s, action := a
        after := {
          world
          live := { frame := some frame, trail := .context s.begun :: b.trail } :: s.live
          begun := s.begun + 1 } }
    else none
  | .snapshot b =>
    if b ∈ s.live then
      let (frame, world) := s.world.capture { frame := b.frame }
      some {
        before := s, action := a
        after := {
          s with world, live := { frame := some frame, trail := .snapshot :: b.trail } :: s.live } }
    else none
  | .intercept b span x resource =>
    if b ∈ s.live then
      let (call, world) := s.world.intercept { frame := b.frame, span } x resource
      let n : Interception :=
        { number := s.begun, trail := b.trail, stack := call.stack, ticket := call.ticket }
      some {
        before := s, action := a, started := some (n, call.phase)
        after := {
          world
          live :=
            { frame := some call.frame, trail := .call n.number :: n.trail, call := some n } ::
              s.live
          begun := s.begun + 1 } }
    else none
  | .leave b =>
    if b ∈ s.live then
      let world := match b.call with
        | some m => s.world.dropTicket m.stack m.ticket
        | none => s.world
      some { before := s, action := a, after := { s with world, live := s.live.erase b } }
    else none
  | .elsewhere e =>
    some { before := s, action := a, after := { s with world := e.change s.world } }

def system : System Bodies BodyAction BodyStep where
  step := step
  after t := t.after

def run (s : Bodies) (schedule : List BodyAction) : Run Bodies BodyStep :=
  system.run s schedule

end Bodies

/-- The intercepted calls of bodies. -/
def calls (live : List Body) : List Interception :=
  live.filterMap (·.call)

/-- The tickets that the calls of bodies hold on a stack. -/
def ticketsOn (live : List Body) (k : StackId) : List Ticket :=
  ((calls live).filter (·.stack = k)).map (·.ticket)

/-! ## Homes -/

/-- What a scope stack was made for. -/
inductive Home where
  | thread
  | context (number : Nat)
  /-- An intercepted call that was started in no frame. -/
  | call (number : Nat)
deriving DecidableEq

namespace Trail

/-- The innermost call with a context. -/
def context? (trail : Trail) : Option Nat :=
  trail.findSome? fun
    | .context n => some n
    | _ => none

/-- The intercepted calls on a trail. -/
def calls (trail : Trail) : List Nat :=
  trail.filterMap fun
    | .call n => some n
    | _ => none

/-- What the stack of a frame with this trail was made for. -/
def home (trail : Trail) : Home :=
  match trail.context? with
  | some n => .context n
  | none =>
    match trail.getLast? with
    | some (.call n) => .call n
    | _ => .thread

variable {trail : Trail}

theorem home_eq_context {n : Nat} : trail.home = .context n ↔ trail.context? = some n := by
  unfold home
  cases trail.context? with
  | some c => simp
  | none =>
    split
    next heq => cases heq
    next => split <;> simp

theorem home_eq_call {n : Nat} :
    trail.home = .call n ↔ trail.context? = none ∧ trail.getLast? = some (.call n) := by
  unfold home
  cases trail.context? with
  | some c => simp
  | none =>
    dsimp only
    split
    next p heq => simp [heq]
    next hnot =>
      refine iff_of_false nofun ?_
      rintro ⟨-, hlast⟩
      exact hnot n hlast

/-- Nothing on the trail has a stack of its own. -/
theorem home_eq_thread (h : trail ≠ []) :
    trail.home = .thread ↔ trail.context? = none ∧ trail.getLast? = some .snapshot := by
  unfold home
  cases hcontext : trail.context? with
  | some c => simp
  | none =>
    dsimp only
    cases hlast : trail.getLast? with
    | none => exact absurd (List.getLast?_eq_none_iff.mp hlast) h
    | some e =>
      cases e with
      | call n => simp
      | snapshot => simp
      | context n =>
        have hmem : Enclosure.context n ∈ trail := List.mem_of_getLast? hlast
        have hnone := List.findSome?_eq_none_iff.mp hcontext _ hmem
        cases hnone

/-- A snapshot shares the stack of its frame. -/
theorem home_snapshot (h : trail ≠ []) : home (.snapshot :: trail) = trail.home := by
  simp only [home, context?, List.findSome?_cons, List.getLast?_cons_of_ne_nil h]

/-- An intercepted call in a frame uses the frame's stack. -/
theorem home_call (h : trail ≠ []) (n : Nat) : home (.call n :: trail) = trail.home := by
  simp only [home, context?, List.findSome?_cons, List.getLast?_cons_of_ne_nil h]

end Trail

/-! ## Where bodies stand -/

namespace Guard

/-- Nothing is lost of the frames and the stacks. -/
structure Grows (g g' : Guard) : Prop where
  size_le : g.scopeStacks.size ≤ g'.scopeStacks.size
  scopes : ∀ k, g'.scopes k = g.scopes k
  stackOf? : ∀ {f k}, g.stackOf? f = some k → g'.stackOf? f = some k

variable {g : Guard} {k : StackId}

theorem Grows.refl (g : Guard) : Grows g g :=
  ⟨Nat.le_refl _, fun _ => rfl, id⟩

theorem Grows.addFrame (g : Guard) (t : TrafficContext) (k : StackId) : Grows g (g.addFrame t k) :=
  ⟨Nat.le_refl _, fun _ => rfl, stackOf?_addFrame_of_some⟩

theorem Grows.newFrame (g : Guard) (t : TrafficContext) :
    Grows g (g.addStack.addFrame t g.scopeStacks.size) where
  size_le := by simp [Guard.addStack, Guard.addFrame]
  scopes _ := scopes_addStack
  stackOf? h := stackOf?_addFrame_of_some h

end Guard

/-- A body stands in no frame, or in one whose stack was made for its home. -/
def Body.Stands (b : Body) (g : Guard) (owner : StackId → Home) : Prop :=
  b.frame = none ∧ b.trail = [] ∨
    ∃ f k, b.frame = some f ∧ b.trail ≠ [] ∧ g.stackOf? f = some k ∧ k < g.scopeStacks.size ∧
      owner k = b.trail.home

/-- What holds of the bodies and the guard at any time. -/
structure Placed (g : Guard) (owner : StackId → Home) (live : List Body) : Prop where
  thread : 0 < g.scopeStacks.size ∧ owner 0 = .thread
  stands : ∀ b ∈ live, b.Stands g owner
  called : ∀ m ∈ calls live, m.stack < g.scopeStacks.size ∧
    owner m.stack = Trail.home (.call m.number :: m.trail)
  accounted : ∀ k, Attempts.Accounted { scopes := g.scopes k, live := ticketsOn live k }

section

variable {g g' : Guard} {owner owner' : StackId → Home} {live : List Body} {b : Body}
  {m : Interception} {k : StackId}

theorem Body.Stands.grow (h : b.Stands g owner) (hg : g.Grows g')
    (howner : ∀ k < g.scopeStacks.size, owner' k = owner k) : b.Stands g' owner' := by
  rcases h with hnone | ⟨f, k, hframe, htrail, hstack, hk, hhome⟩
  · exact .inl hnone
  · exact .inr ⟨f, k, hframe, htrail, hg.stackOf? hstack, Nat.lt_of_lt_of_le hk hg.size_le,
      (howner k hk).trans hhome⟩

theorem Placed.grow (h : Placed g owner live) (hg : g.Grows g')
    (howner : ∀ k < g.scopeStacks.size, owner' k = owner k) : Placed g' owner' live where
  thread := ⟨Nat.lt_of_lt_of_le h.thread.1 hg.size_le, (howner 0 h.thread.1).trans h.thread.2⟩
  stands b hb := (h.stands b hb).grow hg howner
  called m hm := by
    obtain ⟨hlt, hhome⟩ := h.called m hm
    exact ⟨Nat.lt_of_lt_of_le hlt hg.size_le, (howner _ hlt).trans hhome⟩
  accounted k := by
    rw [hg.scopes]
    exact h.accounted k

/-- A body begins that is not one of an intercepted call. -/
theorem Placed.cons (h : Placed g owner live) (hb : b.Stands g owner) (hcall : b.call = none) :
    Placed g owner (b :: live) := by
  have hcalls : calls (b :: live) = calls live := by simp [calls, hcall]
  refine ⟨h.thread, List.forall_mem_cons.mpr ⟨hb, h.stands⟩, ?_, fun k => ?_⟩
  · rw [hcalls]
    exact h.called
  · rw [ticketsOn, hcalls]
    exact h.accounted k

/-! ## Calls that begin and end -/

theorem ticketsOn_cons (hcall : b.call = some m) :
    ticketsOn (b :: live) k =
      if m.stack = k then m.ticket :: ticketsOn live k else ticketsOn live k := by
  simp only [ticketsOn, calls, List.filterMap_cons, hcall, List.filter_cons, decide_eq_true_eq]
  split <;> rfl

theorem Body.Stands.setScopes (h : b.Stands g owner) (k : StackId) (scopes : Scopes) :
    b.Stands (g.setScopes k scopes) owner := by
  rcases h with hnone | ⟨f, j, hframe, htrail, hstack, hj, hhome⟩
  · exact .inl hnone
  · exact .inr ⟨f, j, hframe, htrail, hstack, by rw [Guard.size_setScopes]; exact hj, hhome⟩

/-- An intercepted call enters its boundary on a stack that was made for its home. -/
theorem Placed.enter {boundary : String} {policy : Policy} (h : Placed g owner live)
    (hb : b.Stands g owner) (hcall : b.call = some m) (hk : m.stack < g.scopeStacks.size)
    (hhome : owner m.stack = Trail.home (.call m.number :: m.trail))
    (hticket : m.ticket = ((g.scopes m.stack).enter boundary policy).1) :
    Placed (g.setScopes m.stack ((g.scopes m.stack).enter boundary policy).2) owner (b :: live) := by
  have hcalls : calls (b :: live) = m :: calls live := by simp [calls, hcall]
  refine ⟨?_, fun b' hb' => ?_, fun m' hm' => ?_, fun k => ?_⟩
  · rw [Guard.size_setScopes]
    exact h.thread
  · rcases List.mem_cons.mp hb' with rfl | hb'
    · exact hb.setScopes _ _
    · exact (h.stands b' hb').setScopes _ _
  · rw [Guard.size_setScopes]
    rw [hcalls] at hm'
    rcases List.mem_cons.mp hm' with rfl | hm'
    · exact ⟨hk, hhome⟩
    · exact h.called m' hm'
  · rw [ticketsOn_cons hcall, Guard.scopes_setScopes hk]
    by_cases hstack : m.stack = k
    · subst hstack
      rw [if_pos rfl, if_pos rfl, hticket]
      exact (h.accounted m.stack).enter boundary policy
    · rw [if_neg (Ne.symm hstack), if_neg hstack]
      exact h.accounted k

theorem Placed.erase (h : Placed g owner live) (hb : b ∈ live) (hcall : b.call = none) :
    Placed g owner (live.erase b) := by
  have hperm : (calls live).Perm (calls (live.erase b)) := by
    have hcons := (List.perm_cons_erase hb).filterMap (·.call)
    rwa [List.filterMap_cons_none hcall] at hcons
  refine ⟨h.thread, fun b' hb' => h.stands b' (List.mem_of_mem_erase hb'),
    fun m hm => h.called m (hperm.mem_iff.mpr hm), fun k => ?_⟩
  exact (h.accounted k).perm ((hperm.filter _).map _)

/-- An intercepted call gives its ticket back. -/
theorem Placed.leave (h : Placed g owner live) (hb : b ∈ live) (hcall : b.call = some m) :
    Placed (g.setScopes m.stack ((g.scopes m.stack).exit m.ticket).1) owner (live.erase b) := by
  have hperm : (calls live).Perm (m :: calls (live.erase b)) := by
    have hcons := (List.perm_cons_erase hb).filterMap (·.call)
    rwa [List.filterMap_cons_some hcall] at hcons
  have htickets : ∀ k, (ticketsOn live k).Perm (ticketsOn (b :: live.erase b) k) := by
    intro k
    have hcalls : calls (b :: live.erase b) = m :: calls (live.erase b) := by simp [calls, hcall]
    rw [ticketsOn, ticketsOn, hcalls]
    exact (hperm.filter _).map _
  have hk := (h.called m (hperm.mem_iff.mpr List.mem_cons_self)).1
  refine ⟨?_, fun b' hb' => (h.stands b' (List.mem_of_mem_erase hb')).setScopes _ _,
    fun m' hm' => ?_, fun k => ?_⟩
  · rw [Guard.size_setScopes]
    exact h.thread
  · rw [Guard.size_setScopes]
    exact h.called m' (hperm.mem_iff.mpr (List.mem_cons_of_mem _ hm'))
  · have hcount := htickets k
    rw [ticketsOn_cons hcall] at hcount
    rw [Guard.scopes_setScopes hk]
    by_cases hstack : m.stack = k
    · subst hstack
      rw [if_pos rfl] at hcount ⊢
      have hmem : m.ticket ∈ ticketsOn live m.stack := hcount.mem_iff.mpr List.mem_cons_self
      have herase := hcount.erase m.ticket
      rw [List.erase_cons_head] at herase
      exact ((h.accounted m.stack).exit hmem).2.perm herase
    · rw [if_neg hstack] at hcount
      rw [if_neg (Ne.symm hstack)]
      exact (h.accounted k).perm hcount

theorem mem_ticketsOn {t : Ticket} :
    t ∈ ticketsOn live k ↔ ∃ m ∈ calls live, m.stack = k ∧ m.ticket = t := by
  simp [ticketsOn, and_assoc]

/-- An interception finds bodies as they were, but for a frame of its own if it needs one; that one
has a stack which no other call is on. -/
structure Enters (w : World) (live : List Body) (b : Body) (number : Nat) (call : Intercepted)
    (x : CallArguments) (w' : World) (g : Guard) (owner : StackId → Home) : Prop where
  placed : Placed g owner live
  stack : call.stack < g.scopeStacks.size
  home : owner call.stack = Trail.home (.call number :: b.trail)
  frame : g.stackOf? call.frame = some call.stack
  ticket : call.ticket = ((g.scopes call.stack).enter x.boundary x.policy).1
  guard : w'.guard = g.setScopes call.stack ((g.scopes call.stack).enter x.boundary x.policy).2
  alone : b.trail = [] → ∀ m ∈ calls live, m.stack ≠ call.stack

theorem Placed.intercept {w : World} (h : Placed w.guard owner live) (hb : b ∈ live)
    (number : Nat) (span : Option SpanId) (x : CallArguments) (resource : Option String) :
    ∃ g owner', Enters w live b number (w.intercept { frame := b.frame, span } x resource).1 x
      (w.intercept { frame := b.frame, span } x resource).2 g owner' := by
  obtain ⟨g, hframe, hstack, hticket, hguard⟩ :=
    w.guard_intercept { frame := b.frame, span } x resource
  generalize w.intercept { frame := b.frame, span } x resource = result
    at hframe hstack hticket hguard ⊢
  obtain ⟨call, w'⟩ := result
  dsimp only at hframe hstack hticket hguard ⊢
  rcases h.stands b hb with ⟨hnone, htrail⟩ | ⟨f, k, hsome, htrail, hf, hk, hhome⟩
  · rcases hframe with ⟨hsome, -⟩ | ⟨-, hfresh, rfl⟩
    · rw [hnone] at hsome
      cases hsome
    · have hf : (w.guard.addStack.addFrame {} w.guard.scopeStacks.size).stackOf? call.frame =
          some w.guard.scopeStacks.size := by
        rw [hfresh]
        exact Guard.stackOf?_addFrame_self
      have hcall : call.stack = w.guard.scopeStacks.size := by
        rw [hstack, Guard.current, Option.bind_some, hf]
        rfl
      refine ⟨_, Function.update owner w.guard.scopeStacks.size (.call number),
        h.grow (.newFrame _ _) fun j hj => Function.update_of_ne (Nat.ne_of_lt hj) .., ?_, ?_, ?_,
        hticket, hguard, fun _ m hm => ?_⟩
      · simp [hcall, Guard.addStack, Guard.addFrame]
      · rw [hcall, Function.update_self, htrail]
        rfl
      · rw [hf, hcall]
      · rw [hcall]
        exact Nat.ne_of_lt (h.called m hm).1
  · rcases hframe with ⟨hsome', rfl⟩ | ⟨hnone, -⟩
    · rw [hsome, Option.some.injEq] at hsome'
      subst hsome'
      have hcall : call.stack = k := by
        rw [hstack, Guard.current, Option.bind_some, hf]
        rfl
      refine ⟨w.guard, owner, h, hcall ▸ hk, ?_, hcall ▸ hf, hticket, hguard,
        fun hempty => absurd hempty htrail⟩
      rw [hcall, hhome, Trail.home_call htrail]
    · rw [hsome] at hnone
      cases hnone

end

namespace Bodies

variable {s : Bodies} {owner : StackId → Home} {a : BodyAction} {t : BodyStep}

theorem placed_initial : Placed ({} : Bodies).world.guard (fun _ => .thread) [] where
  thread := ⟨Nat.one_pos, rfl⟩
  stands := by simp
  called := by simp [calls]
  accounted k := by
    have hscopes : ({} : Bodies).world.guard.scopes k = {} := by
      cases k <;> rfl
    rw [hscopes]
    exact .empty

theorem placed_task (h : Placed s.world.guard owner s.live) :
    Placed s.world.guard owner ({} :: s.live) :=
  h.cons (.inl ⟨rfl, rfl⟩) rfl

theorem placed_withContext (h : Placed s.world.guard owner s.live) (trail : Trail)
    (traffic : TrafficContext) :
    Placed (s.world.newFrame traffic).2.guard
      (Function.update owner s.world.guard.scopeStacks.size (.context s.begun))
      ({ frame := some (s.world.newFrame traffic).1, trail := .context s.begun :: trail } ::
        s.live) := by
  have hguard : (s.world.newFrame traffic).2.guard =
      s.world.guard.addStack.addFrame traffic s.world.guard.scopeStacks.size := rfl
  rw [hguard]
  refine (h.grow (.newFrame _ traffic) fun k hk => Function.update_of_ne (Nat.ne_of_lt hk) ..).cons
    (.inr ⟨_, s.world.guard.scopeStacks.size, rfl, List.cons_ne_nil _ _,
      Guard.stackOf?_addFrame_self, ?_, ?_⟩) rfl
  · simp [Guard.addStack, Guard.addFrame]
  · rw [Function.update_self]
    rfl

/-- A snapshot shares the stack of its frame; outside any it shares the thread's. -/
theorem placed_snapshot (h : Placed s.world.guard owner s.live) {b : Body} (hb : b ∈ s.live) :
    Placed (s.world.capture { frame := b.frame }).2.guard owner
      ({ frame := some (s.world.capture { frame := b.frame }).1, trail := .snapshot :: b.trail } ::
        s.live) := by
  have hstack : s.world.guard.current b.frame < s.world.guard.scopeStacks.size ∧
      owner (s.world.guard.current b.frame) = Trail.home (.snapshot :: b.trail) := by
    rcases h.stands b hb with ⟨hnone, htrail⟩ | ⟨f, k, hsome, htrail, hf, hk, hhome⟩
    · rw [hnone, htrail]
      exact h.thread
    · rw [hsome, Guard.current, Option.bind_some, hf, Trail.home_snapshot htrail]
      exact ⟨hk, hhome⟩
  rw [World.guard_capture]
  exact (h.grow (.addFrame _ _ _) fun _ _ => rfl).cons
    (.inr ⟨_, _, rfl, List.cons_ne_nil _ _, Guard.stackOf?_addFrame_self, hstack⟩) rfl

theorem placed_step (h : Placed s.world.guard owner s.live) (ht : s.step a = some t) :
    ∃ owner', Placed t.after.world.guard owner' t.after.live := by
  cases a with
  | task =>
    cases ht
    exact ⟨owner, placed_task h⟩
  | elsewhere e =>
    cases ht
    have hgrows : s.world.guard.Grows (e.change s.world).guard :=
      ⟨Nat.le_of_eq (by rw [e.scopeStacks]), fun k => by rw [Guard.scopes, e.scopeStacks]; rfl,
        fun hf => by rw [e.stackOf?, hf]⟩
    exact ⟨owner, h.grow hgrows fun _ _ => rfl⟩
  | withContext b traffic =>
    by_cases hb : b ∈ s.live
    · simp only [step, if_pos hb, Option.some.injEq] at ht
      subst ht
      exact ⟨_, placed_withContext h b.trail traffic⟩
    · simp [step, hb] at ht
  | snapshot b =>
    by_cases hb : b ∈ s.live
    · simp only [step, if_pos hb, Option.some.injEq] at ht
      subst ht
      exact ⟨owner, placed_snapshot h hb⟩
    · simp [step, hb] at ht
  | intercept b span x resource =>
    by_cases hb : b ∈ s.live
    · simp only [step, if_pos hb, Option.some.injEq] at ht
      subst ht
      obtain ⟨g, owner', henters⟩ := h.intercept hb s.begun span x resource
      generalize s.world.intercept { frame := b.frame, span } x resource = result at henters ⊢
      obtain ⟨call, world⟩ := result
      have hstands : Body.Stands
          { frame := some call.frame, trail := .call s.begun :: b.trail,
            call := some ⟨s.begun, b.trail, call.stack, call.ticket⟩ } g owner' :=
        .inr ⟨_, _, rfl, List.cons_ne_nil _ _, henters.frame, henters.stack, henters.home⟩
      refine ⟨owner', ?_⟩
      dsimp only
      rw [henters.guard]
      exact henters.placed.enter hstands rfl henters.stack henters.home henters.ticket
    · simp [step, hb] at ht
  | leave b =>
    by_cases hb : b ∈ s.live
    · simp only [step, if_pos hb, Option.some.injEq] at ht
      subst ht
      cases hcall : b.call with
      | none => exact ⟨owner, h.erase hb hcall⟩
      | some m => exact ⟨owner, h.leave hb hcall⟩
    · simp [step, hb] at ht

theorem placed_run (schedule : List BodyAction) :
    ∃ owner, Placed (run {} schedule).final.world.guard owner (run {} schedule).final.live := by
  refine System.run_invariant
    (P := fun s : Bodies => ∃ owner, Placed s.world.guard owner s.live) ?_ ⟨_, placed_initial⟩
    schedule
  rintro s e t ⟨owner, h⟩ ht
  exact placed_step h ht

end Bodies

end ShadowTraffic.Scenario
