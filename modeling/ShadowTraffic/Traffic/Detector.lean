import ShadowTraffic.Pattern.Footprint
import ShadowTraffic.Text.Ascii
import ShadowTraffic.Text.Quoted
import ShadowTraffic.Traffic.Context

/-! # Detectors

A detector looks at a call's context and at the name of the resource it touches, and decides
whether the call is test traffic or leaves the decision to the next one. Only an explicit key
decides both ways: a value that is not truthy keeps a call out of the test path whatever the
resource is called.
-/

namespace ShadowTraffic

inductive DetectorKind where
  | explicitKey
  | resourcePrefix
  | pattern
  | predicate
deriving DecidableEq, Inhabited

namespace DetectorKind

/-- Detectors are asked in the order of their ranks. -/
def rank : DetectorKind → Nat
  | explicitKey => 0
  | resourcePrefix => 1
  | pattern => 2
  | predicate => 3

def name : DetectorKind → String
  | explicitKey => "explicit_key"
  | resourcePrefix => "resource_prefix"
  | pattern => "pattern"
  | predicate => "predicate"

def description : DetectorKind → String
  | explicitKey => "ExplicitKey"
  | resourcePrefix => "ResourcePrefix"
  | pattern => "Pattern"
  | predicate => "Predicate"

end DetectorKind

/-- One way of recognising test traffic, with what it looks for. -/
inductive Detector where
  /-- Decides whenever the key is present. -/
  | explicitKey (key : String) (truthy : List String)
  /-- Marks names that begin so, directly or behind a wrapper. -/
  | resourcePrefix (start : String) (wrappers : List String)
  /-- Marks names that the expression matches. -/
  | pattern (source : String) (expression : Pattern)
  /-- Marks names that a naming convention recognises. -/
  | predicate (recognises : String → Bool)

namespace Detector

def kind : Detector → DetectorKind
  | explicitKey .. => .explicitKey
  | resourcePrefix .. => .resourcePrefix
  | pattern .. => .pattern
  | predicate .. => .predicate

def rank (d : Detector) : Nat :=
  d.kind.rank

/-- Whether a value, blanks around it aside, is one of the truthy ones up to ASCII case. -/
def isTruthy (truthy : List String) (value : String) : Bool :=
  truthy.any fun t => Text.sameAscii t (Text.trim value)

/-- Whether a name has the reserved beginning, directly or behind a wrapper. -/
def hasPrefix (start : String) (wrappers : List String) (name : String) : Bool :=
  Text.startsWith name start ||
    wrappers.any fun wrapper => (Text.rest? name wrapper).any (Text.startsWith · start)

def recognises : Detector → String → Bool
  | explicitKey .., _ => false
  | resourcePrefix start wrappers, name => hasPrefix start wrappers name
  | pattern _ expression, name => expression.found name
  | predicate test, name => test name

/-- The detector's decision, or none. -/
def evaluate (d : Detector) (t : TrafficContext) (resource : Option String) : Option Bool :=
  match d with
  | explicitKey key truthy => (t.get? key).map (isTruthy truthy)
  | d => if resource.any d.recognises then some true else none

def description : Detector → String
  | explicitKey key truthy =>
    "ExplicitKey \x7b key: " ++ Text.quoted key ++ ", truthy: " ++ Text.quotedList truthy ++
      " \x7d"
  | resourcePrefix start wrappers =>
    "ResourcePrefix \x7b prefix: " ++ Text.quoted start ++ ", wrappers: " ++
      Text.quotedList wrappers ++ " \x7d"
  | pattern source _ => "Pattern(" ++ Text.quoted source ++ ")"
  | predicate _ => "Predicate(..)"

end Detector

end ShadowTraffic
