/-! # Routes

Where a call was sent.
-/

namespace ShadowTraffic

inductive Route where
  /-- Ordinary traffic on the business handle. -/
  | business
  /-- Test traffic on the business handle, for want of a shadow. -/
  | fallback
  /-- Test traffic on the shadow handle. -/
  | shadow
  /-- Test traffic refused while the switch is off. -/
  | rejected
  /-- Test traffic allowed onto a business resource. -/
  | whitelisted
  /-- Test traffic answered without touching a resource. -/
  | mock
  /-- A nested invocation inside a mediated call. -/
  | reentrant
deriving DecidableEq, Inhabited

/-- The name of a route in answers, counters and spans. -/
def Route.name : Route → String
  | business => "business"
  | fallback => "fallback"
  | shadow => "shadow"
  | rejected => "rejected"
  | whitelisted => "whitelisted"
  | mock => "mock"
  | reentrant => "reentrant"

end ShadowTraffic
