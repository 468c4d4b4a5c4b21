import ShadowTraffic.Identity
import ShadowTraffic.Log.Filter
import ShadowTraffic.Registry.Provision
import ShadowTraffic.Routing.Route
import ShadowTraffic.Traffic.Carrier

/-! # Notices and spans

Everything the library reports while it works, as data: a notice has a level, a text and fields;
a span has a name, fields it opens with and fields recorded later. Identities are always reported
in their redacted form.
-/

namespace ShadowTraffic

inductive FieldValue where
  | text (s : String)
  | count (n : Nat)
  | flag (b : Bool)
  /-- A duration; its length is not told. -/
  | time
deriving DecidableEq

abbrev Fields := List (String × FieldValue)

inductive Notice where
  | rulesReloaded (markerKey : String) (detectors : Nat)
  | entrySkipped (key : String) (error : CarrierError)
  | reentrantSkipped (boundary : String) (skipped : Nat)
  | unbalancedExit (boundary : String) (policy : Policy)
  | switchChanged (enabled : Bool)
  | whitelistReplaced (resources : Nat)
  | rejected (resource : Option String) (decidedBy : Option DetectorKind)
  | whitelisted (resource : String)
  | substituted (resource : Option String) (failed : Bool)
  | routedToShadow (identity : Identity)
  | shadowCallFailed (identity : Identity)
  | passedThrough (identity : Identity)
  | cacheHit (identity : Identity)
  | configDrift (identity : Identity)
  | shadowProvisioned
  | noShadow
  | provisioningFailed (error : ProvisionError)
  | orphanClosed (identity : Identity)
  | invalidated (identity : Identity)
  | registryReleased (closed : Nat)
  | registryDropped (remaining : Nat)
  | closeFailed (identity : Identity) (error : ProvisionError)
  | mediatorReleased (identity : Identity)
  | metricsDescribed
  | structuredLogging
  | consoleLogging
  | logging (level : String) (json spans : Bool)
deriving DecidableEq

namespace Notice

def level : Notice → Level
  | reentrantSkipped .. => .trace
  | whitelisted .. | substituted .. | routedToShadow .. | cacheHit .. | configDrift ..
  | noShadow | mediatorReleased .. => .debug
  | rulesReloaded .. | switchChanged .. | whitelistReplaced .. | passedThrough ..
  | shadowProvisioned | orphanClosed .. | invalidated .. | registryReleased ..
  | metricsDescribed | structuredLogging | consoleLogging | logging .. => .info
  | entrySkipped .. | rejected .. | shadowCallFailed .. | registryDropped .. => .warn
  | unbalancedExit .. | provisioningFailed .. | closeFailed .. => .error

def message : Notice → String
  | rulesReloaded .. => "Marker rules reloaded"
  | entrySkipped .. => "Skipping unpropagatable context entry"
  | reentrantSkipped .. => "Reentrant invocation skipped"
  | unbalancedExit .. =>
    "Scope left without a matching entry; interceptor exit paths are unbalanced"
  | switchChanged .. => "Shadow routing switch changed"
  | whitelistReplaced .. => "Test traffic whitelist replaced"
  | rejected .. => "Test traffic rejected; shadow routing is switched off"
  | whitelisted .. => "Test traffic allowed onto whitelisted resource"
  | substituted .. => "Test traffic answered by substitute"
  | routedToShadow .. => "Routing test traffic to shadow resource"
  | shadowCallFailed .. => "Test traffic failed on shadow resource"
  | passedThrough .. =>
    "Test traffic passed through to business resource; no shadow configured"
  | cacheHit .. => "Mediator cache hit"
  | configDrift .. => "Cached mediator was built from a different raw configuration"
  | shadowProvisioned => "Shadow resource provisioned"
  | noShadow => "No shadow resource configured; marked traffic passes through"
  | provisioningFailed .. => "Shadow provisioning failed; marked traffic passes through"
  | orphanClosed .. => "Closed mediator orphaned by release during construction"
  | invalidated .. => "Mediator invalidated"
  | registryReleased .. => "Mediator registry released"
  | registryDropped .. =>
    "Mediator registry dropped without release; shadow resources were not closed"
  | closeFailed .. => "Failed to close shadow resource"
  | mediatorReleased .. => "Mediator released"
  | metricsDescribed => "Initializing shadowline metric descriptions"
  | structuredLogging => "Shadowline structured logging initialized"
  | consoleLogging => "Shadowline console logging initialized"
  | logging .. => "Shadowline logging initialized"

/-- The part of the library that reports a notice, by which filters choose. -/
def target : Notice → String
  | rulesReloaded .. | entrySkipped .. => "shadowline::core::marker"
  | reentrantSkipped .. | unbalancedExit .. => "shadowline::core::scope"
  | switchChanged .. | whitelistReplaced .. | rejected .. | whitelisted .. | substituted ..
  | routedToShadow .. | shadowCallFailed .. | passedThrough .. => "shadowline::core::dispatch"
  | cacheHit .. | configDrift .. | shadowProvisioned | noShadow | provisioningFailed ..
  | orphanClosed .. | invalidated .. | registryReleased .. | registryDropped .. =>
    "shadowline::core::registry"
  | closeFailed .. | mediatorReleased .. => "shadowline::core::mediator"
  | metricsDescribed => "shadowline::metrics"
  | structuredLogging | consoleLogging | logging .. => "shadowline::tracing_setup"

/-- A field that is left out when it has no value. -/
def optional (name : String) : Option String → Fields
  | some s => [(name, .text s)]
  | none => []

/-- The identity a notice is about, without its token. -/
def about (identity : Identity) : Fields :=
  [("identity", .text identity.redacted)]

/-- A detector kind, if any, within a description. -/
def describeKind : Option DetectorKind → String
  | some kind => "Some(" ++ kind.description ++ ")"
  | none => "None"

def fields : Notice → Fields
  | rulesReloaded key n => [("marker_key", .text key), ("detectors", .count n)]
  | entrySkipped key e => [("key", .text key), ("error", .text e.message)]
  | reentrantSkipped b n => [("boundary", .text b), ("skipped", .count n)]
  | unbalancedExit b p => [("boundary", .text b), ("policy", .text p.description)]
  | switchChanged enabled => [("enabled", .flag enabled)]
  | whitelistReplaced n => [("resources", .count n)]
  | rejected resource kind =>
    optional "resource" resource ++ [("decided_by", .text (describeKind kind))]
  | whitelisted resource => [("resource", .text resource)]
  | substituted resource failed => optional "resource" resource ++ [("failed", .flag failed)]
  | routedToShadow i | shadowCallFailed i | passedThrough i | cacheHit i | configDrift i
  | orphanClosed i | invalidated i => about i
  | shadowProvisioned | noShadow | metricsDescribed | structuredLogging | consoleLogging => []
  | logging level json spans =>
    [("level", .text level), ("json", .flag json), ("spans", .flag spans)]
  | provisioningFailed e => [("error", .text e.message)]
  | registryReleased n => [("closed", .count n)]
  | registryDropped n => [("remaining", .count n)]
  | closeFailed i e => about i ++ [("error", .text e.message)]
  | mediatorReleased i => about i ++ [("age", .time)]

def fieldNames (n : Notice) : List String :=
  match n with
  | rejected .. => ["resource", "decided_by"]
  | substituted .. => ["resource", "failed"]
  | n => n.fields.map (·.1)

end Notice

/-- Spans are numbered in the order they are opened. -/
abbrev SpanId := Nat

inductive Span where
  | dispatch (boundary : String) (resource : Option String)
  | provision (identity : Identity)
  | component (name : String)
deriving DecidableEq

namespace Span

def name : Span → String
  | dispatch .. => "dispatch"
  | provision .. => "provision_shadow"
  | component .. => "component"

def fields : Span → Fields
  | dispatch b resource => ("boundary", .text b) :: Notice.optional "resource" resource
  | provision i => Notice.about i
  | component n => [("name", .text n)]

/-- The names of all fields a span can have, those recorded later included. -/
def fieldNames : Span → List String
  | dispatch .. => ["boundary", "resource", "route"]
  | provision .. => ["identity", "duration_ms"]
  | component .. => ["name"]

def level : Level := .info

def target : String := "shadowline::tracing_setup"

end Span

/-- What is recorded on a span after it was opened. -/
inductive SpanRecord where
  | route (r : Route)
  | duration
deriving DecidableEq

namespace SpanRecord

def spanName : SpanRecord → String
  | route _ => "dispatch"
  | duration => "provision_shadow"

def fields : SpanRecord → Fields
  | route r => [("route", .text r.name)]
  | duration => [("duration_ms", .time)]

end SpanRecord

end ShadowTraffic
