import ShadowTraffic.Log.Logger

/-! # A rehearsal of logging

A logger is installed, something is reported inside three spans, and the same logger is installed
once more, which must fail. What is reported comes from a scope stack on which a boundary is
entered twice and then left under a policy that was not entered.
-/

namespace ShadowTraffic.Scenario

/-- Both installations, and what was written between them. -/
structure Rehearsal where
  first : Except LoggingError Logger
  second : Except LoggingError Logger
  records : List LogRecord

namespace Rehearsal

def boundary : String := "mq#send"

def identity : Identity :=
  ⟨"db", "1", "", "token", ""⟩

def spans (resource : Option String) : List Span :=
  [.dispatch boundary resource, .provision identity, .component "scope"]

/-- What entering twice and leaving under the other policy reports. -/
def notices : List Notice :=
  let (first, s) := (default : Scopes).enter boundary .boundary
  let (second, s) := s.enter boundary .boundary
  let skipped := [first, second].filter (!·.entered)
  (skipped.map fun t => .reentrantSkipped t.boundary (s.frame t.boundary).skipped) ++
    match s.leave boundary .internal with
    | .ok _ => []
    | .error e => [.unbalancedExit e.boundary .internal]

/-- Installs a logger of a kind, reports, and installs it again. -/
def run (kind : LoggerKind) (setting resource : Option String) : Rehearsal :=
  let first := kind.install setting none
  let records :=
    match first with
    | .error _ => []
    | .ok logger =>
      let inside := (spans resource).foldl logger.enter {}
      (logger.record {} kind.notice).toList ++ notices.filterMap (logger.record inside)
  ⟨first, kind.install setting first.toOption, records⟩

end Rehearsal

end ShadowTraffic.Scenario
