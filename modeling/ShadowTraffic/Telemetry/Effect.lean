import ShadowTraffic.Telemetry.Notice

/-! # Effects and metrics

An operation gives back what it reports and counts as a list of effects, in order. The metrics
are what the effects add up to.
-/

namespace ShadowTraffic

/-- The series that only grow. -/
inductive Counter where
  | dispatched (route : Route)
  | provisioned (outcome : ProvisionOutcome)
  | misused (boundary : String)
deriving DecidableEq

inductive Effect where
  | noticed (n : Notice)
  | opened (id : SpanId) (span : Span)
  | recorded (id : SpanId) (record : SpanRecord)
  | counted (c : Counter)
  /-- One more duration of a build. -/
  | sampled
  /-- The number of active mediators as last reported. -/
  | activeSet (n : Nat)
deriving DecidableEq

/-- Ends the attempt of a ticket. An exit that does not match changes nothing, and is reported and
counted. -/
def Scopes.exit (s : Scopes) (t : Ticket) : Scopes × List Effect :=
  match s.drop t with
  | .ok s => (s, [])
  | .error e =>
    (s, [.noticed (.unbalancedExit t.boundary t.policy), .counted (.misused e.boundary)])

def Counter.series : Counter → String
  | dispatched r => "shadowline_dispatch_total\x7broute=" ++ r.name ++ "\x7d"
  | provisioned o => "shadowline_shadow_provision_total\x7boutcome=" ++ o.name ++ "\x7d"
  | misused b => "shadowline_guard_misuse_total\x7bboundary=" ++ b ++ "\x7d"

/-- Counts by series, samples taken, and the gauge if it was ever set. -/
structure Metrics where
  counts : Dictionary Nat := .empty
  samples : Nat := 0
  active : Option Nat := none
deriving DecidableEq, Inhabited

namespace Metrics

def count (m : Metrics) (c : Counter) : Nat :=
  (m.counts.get? c.series).getD 0

def record (m : Metrics) : Effect → Metrics
  | .counted c => { m with counts := m.counts.modify c.series 0 (· + 1) }
  | .sampled => { m with samples := m.samples + 1 }
  | .activeSet n => { m with active := some n }
  | _ => m

/-- Every series that was written, by name. -/
def series (m : Metrics) : List (String × Nat) :=
  m.counts.entries ++
    (if m.samples > 0 then [("shadowline_shadow_provision_duration_seconds", m.samples)] else []) ++
    (match m.active with
      | some n => [("shadowline_mediators_active", n)]
      | none => [])

end Metrics

end ShadowTraffic
