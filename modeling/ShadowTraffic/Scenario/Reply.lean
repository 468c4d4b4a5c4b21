import ShadowTraffic.Routing.Dispatch
import ShadowTraffic.Scenario.Command

/-! # Replies

What the steps of a scenario answer, and the record a run leaves: an entry for every reply, with
what the library reported since the entry before.
-/

namespace ShadowTraffic.Scenario

inductive Changed where
  | nothing
  | previous (value : Option String)
  | marked (flag : Bool)

inductive TaskEnd where
  | done
  | cancelled
  | panicked (message : String)
deriving DecidableEq

inductive SubstituteInfo where
  | table (m : MockTable)
  | cases

inductive Reply where
  | refused (r : Refusal)
  /-- Nothing to tell. -/
  | none
  /-- The step is done. -/
  | ok
  | done
  | kept
  | spawned
  | settled
  | passed
  | flag (b : Bool)
  | count (n : Nat)
  | text (s : Option String)
  | context (t : Option TrafficContext)
  /-- A new root context. -/
  | root (t : TrafficContext)
  | contextInfo (t : TrafficContext)
  | rulesFailed (e : RulesError)
  | rules (r : Rules)
  | detected (d : Detection) (isMarked : Bool) (isMarkedFor : Option Bool)
  | evaluated (answers : List (Option Bool))
  | carrier (c : Carrier)
  | carrierFailed (e : CarrierError)
  | injected (written : Nat) (c : Carrier)
  /-- The answer of the guard, and what can then be seen of the boundary. -/
  | guard (answer : Reply) (state : ScopeState) (depth : Nat)
  | notEntered (e : NotEntered)
  | ticket (t : Ticket)
  | left (boundary : String)
  | ran (b : Bool)
  | changed (ran : Bool) (c : Changed)
  | panicked (message : Option String)
  | joined (e : TaskEnd)
  | handle (rows : List String) (closes : Nat)
  | mediator (m : Option Mediator)
  | unresolved (e : IdentityError)
  | size (n : Nat)
  | stats (s : RegistryStats) (active size : Nat)
  | metrics (m : Metrics)
  | substitute (info : SubstituteInfo) (answers : List (Option (Except String String)))
  | descriptions (texts : List String)
  | route (r : Route)
  | dispatched (result : Except (DispatchError String) (Dispatched String))
  /-- A call runs on a target. -/
  | called (target : Target) (handle : Handle)
  /-- A factory starts to build. -/
  | building (factory : String) (number : Nat) (config : Descriptor)

/-- A step named by its place among the steps around it. -/
abbrev Path := String

inductive Origin where
  | step (path : Path)
  /-- The step's call begins. -/
  | call (path : Path)
  /-- The step's look-up begins. -/
  | lookup (path : Path)
  | build
deriving DecidableEq

/-- One reply, with what was reported since the one before. -/
structure Entry where
  origin : Origin
  reply : Reply
  events : List Effect

structure Record where
  entries : Array Entry := #[]
  /-- The message of a panic nobody caught. -/
  panic : Option String := .none
  /-- The trace ids that were drawn, in order. -/
  traceIds : List String := []

end ShadowTraffic.Scenario
