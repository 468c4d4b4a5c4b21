import ShadowTraffic.Dictionary

/-! # The invocation scope guard

For a tree of nested interceptions the guard decides which invocation of a boundary is mediated.
The frames of one logical call count, for each boundary name, whether an invocation has entered,
how many nested attempts were skipped meanwhile, and how many internal ones are open. A frame
without any of these is idle and is not kept.

An attempt ends in one of two ways. By hand: `canLeave` once, and `leave` when that allowed it.
Or by its ticket, which remembers whether the attempt was accepted and undoes exactly that.
-/

namespace ShadowTraffic

inductive Policy where
  /-- Only the outermost invocation is processed. -/
  | boundary
  /-- Every invocation is processed. -/
  | internal
deriving DecidableEq, Inhabited

def Policy.name : Policy → String
  | boundary => "boundary"
  | internal => "internal"

def Policy.ofName? : String → Option Policy
  | "boundary" => some .boundary
  | "internal" => some .internal
  | _ => none

def Policy.description : Policy → String
  | boundary => "Boundary"
  | internal => "Internal"

inductive ScopeState where
  | idle
  | entered
deriving DecidableEq

/-- An exit without a matching entry. -/
structure NotEntered where
  boundary : String
deriving DecidableEq

def NotEntered.message (e : NotEntered) : String :=
  "Scope '" ++ e.boundary ++ "' left without a matching entry"

structure Frame where
  entered : Bool := false
  skipped : Nat := 0
  internalDepth : Nat := 0
deriving DecidableEq, Inhabited

def Frame.isIdle (f : Frame) : Bool :=
  !f.entered && f.skipped == 0 && f.internalDepth == 0

/-- The attempts that are open, accepted or skipped. -/
def Frame.depth (f : Frame) : Nat :=
  f.entered.toNat + f.skipped + f.internalDepth

def Frame.state (f : Frame) : ScopeState :=
  if f.entered || f.internalDepth > 0 then .entered else .idle

structure Scopes where
  frames : Dictionary Frame := .empty
deriving DecidableEq, Inhabited

/-- One attempt on a boundary, to be undone when it ends. -/
structure Ticket where
  boundary : String
  policy : Policy
  entered : Bool
deriving DecidableEq

namespace Scopes

/-- The frame of a boundary; an absent one is idle. -/
def frame (s : Scopes) (boundary : String) : Frame :=
  (s.frames.get? boundary).getD {}

/-- Keeps a changed frame unless it has become idle. -/
def keep (s : Scopes) (boundary : String) (f : Frame) : Scopes :=
  if f.isIdle then ⟨s.frames.erase boundary⟩ else ⟨s.frames.insert boundary f⟩

def state (s : Scopes) (boundary : String) : ScopeState :=
  (s.frame boundary).state

def depth (s : Scopes) (boundary : String) : Nat :=
  (s.frame boundary).depth

/-- An attempt to enter. Under the boundary policy it is skipped while another one is entered. -/
def tryEnter (s : Scopes) (boundary : String) (policy : Policy) : Bool × Scopes :=
  let f := s.frame boundary
  match policy with
  | .boundary =>
    if f.entered then (false, ⟨s.frames.insert boundary { f with skipped := f.skipped + 1 }⟩)
    else (true, ⟨s.frames.insert boundary { f with entered := true }⟩)
  | .internal =>
    (true, ⟨s.frames.insert boundary { f with internalDepth := f.internalDepth + 1 }⟩)

/-- Whether the attempt that exits now owns the entry. Skipped attempts are used up first, so
exits must come innermost first. -/
def canLeave (s : Scopes) (boundary : String) (policy : Policy) : Bool × Scopes :=
  match policy, s.frames.get? boundary with
  | .boundary, some f =>
    if f.skipped > 0 then (false, s.keep boundary { f with skipped := f.skipped - 1 })
    else (true, s)
  | _, _ => (true, s)

/-- Ends an accepted attempt. Without one of that policy the exit is an error and nothing
changes. -/
def leave (s : Scopes) (boundary : String) (policy : Policy) : Except NotEntered Scopes :=
  match s.frames.get? boundary with
  | none => .error ⟨boundary⟩
  | some f =>
    match policy with
    | .boundary =>
      if f.entered then .ok (s.keep boundary { f with entered := false })
      else .error ⟨boundary⟩
    | .internal =>
      if f.internalDepth > 0 then
        .ok (s.keep boundary { f with internalDepth := f.internalDepth - 1 })
      else .error ⟨boundary⟩

/-- Ends a skipped attempt without touching the entry it was nested in. -/
def releaseSkipped (s : Scopes) (boundary : String) : Scopes :=
  match s.frames.get? boundary with
  | none => s
  | some f => s.keep boundary { f with skipped := f.skipped - 1 }

def enter (s : Scopes) (boundary : String) (policy : Policy) : Ticket × Scopes :=
  let (entered, s) := s.tryEnter boundary policy
  (⟨boundary, policy, entered⟩, s)

/-- Ends the attempt of a ticket: an accepted one leaves, a skipped one is released. -/
def drop (s : Scopes) (t : Ticket) : Except NotEntered Scopes :=
  if t.entered then s.leave t.boundary t.policy else .ok (s.releaseSkipped t.boundary)

end Scopes

/-- The conventional name of a boundary: an interceptor on one behavior of a target. -/
def boundaryName (interceptor target behavior : String) : String :=
  interceptor ++ "#" ++ target ++ "_" ++ behavior

end ShadowTraffic
