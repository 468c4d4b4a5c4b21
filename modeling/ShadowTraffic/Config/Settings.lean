import ShadowTraffic.Scope

/-! # Settings

The settings of a mediation service in four sections, each with defaults, so that nothing at all
is a valid configuration.
-/

namespace ShadowTraffic

structure MarkerSettings where
  /-- Carries the explicit flag. -/
  markerKey : String := "x-shadow-test"
  /-- Carries the trace id of a root context. -/
  traceIdKey : String := "x-shadow-trace-id"
  /-- Values of the marker key that mean test traffic. -/
  truthyValues : List String := ["true", "1"]
  /-- Further keys forwarded across call boundaries. -/
  propagationKeys : List String := []
  /-- Reserved beginning of the names of test resources. -/
  testPrefix : Option String := some "PT_"
  /-- Beginnings a test prefix may stand behind. -/
  wrapperPrefixes : List String := ["%RETRY%", "%DLQ%"]
  /-- Expressions that names of test resources match. -/
  patterns : List String := []
deriving DecidableEq, Inhabited

structure RoutingSettings where
  /-- When off, test traffic is rejected. -/
  enabled : Bool := true
  /-- Whether passing through to a business resource is logged. -/
  flagFallback : Bool := true
  /-- Resources that test traffic may reach as they are. -/
  whitelist : List String := []
deriving DecidableEq, Inhabited

structure ScopeSettings where
  defaultPolicy : Policy := .boundary
deriving DecidableEq, Inhabited

/-- What is logged, and in which form. -/
structure LoggingSettings where
  /-- A filter in directive form. -/
  level : String := "info"
  json : Bool := true
  includeSpans : Bool := false
deriving DecidableEq, Inhabited

structure Settings where
  marker : MarkerSettings := {}
  routing : RoutingSettings := {}
  scope : ScopeSettings := {}
  logging : LoggingSettings := {}
deriving DecidableEq, Inhabited

end ShadowTraffic
