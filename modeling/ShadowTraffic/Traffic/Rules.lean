import ShadowTraffic.Config.Settings
import ShadowTraffic.Traffic.Detector

/-! # Marker rules

An ordered list of detectors and the set of keys that travel across boundaries. The list is in
order of rank whatever the order of configuration, and the first detector to decide decides.
-/

namespace ShadowTraffic

inductive RulesError where
  | emptyMarkerKey
  | invalidPattern (source : String) (fault : Pattern.Fault)
deriving DecidableEq

namespace RulesError

def summary : RulesError → String
  | emptyMarkerKey => "Marker key must not be empty"
  | invalidPattern source _ => "Invalid resource name pattern '" ++ source ++ "'"

def detail? : RulesError → Option String
  | emptyMarkerKey => none
  | invalidPattern source fault => some (fault.describe source)

def message (e : RulesError) : String :=
  match e.detail? with
  | some detail => e.summary ++ ": " ++ detail
  | none => e.summary

end RulesError

structure Detection where
  marked : Bool
  /-- Absent when no detector decided. -/
  decidedBy : Option DetectorKind
deriving DecidableEq

/-- Detectors in order of rank, and the keys they and the transports know. -/
structure Rules where
  markerKey : String
  traceIdKey : String
  propagationKeys : Dictionary Unit
  detectors : List Detector

namespace Rules

def keySet (keys : List String) : Dictionary Unit :=
  Dictionary.ofList (keys.map fun key => (key, ()))

/-- Compiles the expressions in order; the first that is none is the error. -/
def patternDetectors : List String → Except RulesError (List Detector)
  | [] => .ok []
  | source :: rest =>
    match Pattern.parse source with
    | .error fault => .error (.invalidPattern source fault)
    | .ok expression => do pure (.pattern source expression :: (← patternDetectors rest))

/-- The detector of a reserved prefix; an empty prefix is no prefix. -/
def prefixDetectors (s : MarkerSettings) : List Detector :=
  match s.testPrefix with
  | some start => if start.isEmpty then [] else [.resourcePrefix start s.wrapperPrefixes]
  | none => []

/-- Rules from settings; the marker key and the trace id key always travel. -/
def ofSettings (s : MarkerSettings) : Except RulesError Rules :=
  if Text.isBlank s.markerKey then .error .emptyMarkerKey
  else do
    let patterns ← patternDetectors s.patterns
    pure {
      markerKey := s.markerKey
      traceIdKey := s.traceIdKey
      propagationKeys := keySet (s.propagationKeys ++ [s.markerKey, s.traceIdKey])
      detectors := .explicitKey s.markerKey s.truthyValues :: (prefixDetectors s ++ patterns) }

def default : Rules :=
  let s : MarkerSettings := {}
  { markerKey := s.markerKey
    traceIdKey := s.traceIdKey
    propagationKeys := keySet [s.markerKey, s.traceIdKey]
    detectors := .explicitKey s.markerKey s.truthyValues :: prefixDetectors s }

instance : Inhabited Rules := ⟨default⟩

/-- A detector placed behind those of its rank. -/
def place (d : Detector) : List Detector → List Detector
  | [] => [d]
  | e :: rest => if e.rank ≤ d.rank then e :: place d rest else d :: e :: rest

def withDetector (r : Rules) (d : Detector) : Rules :=
  { r with detectors := place d r.detectors }

def withPropagationKey (r : Rules) (key : String) : Rules :=
  { r with propagationKeys := r.propagationKeys.insert key () }

/-- The first decision among detectors. -/
def firstDecision (t : TrafficContext) (resource : Option String) : List Detector → Detection
  | [] => ⟨false, none⟩
  | d :: rest =>
    match d.evaluate t resource with
    | some marked => ⟨marked, some d.kind⟩
    | none => firstDecision t resource rest

/-- Whether a call is test traffic, and who says so. -/
def detect (r : Rules) (t : TrafficContext) (resource : Option String) : Detection :=
  firstDecision t resource r.detectors

def isMarked (r : Rules) (t : TrafficContext) : Bool :=
  (r.detect t none).marked

def mark (r : Rules) (t : TrafficContext) : TrafficContext :=
  { t.insert r.markerKey "true" with marked := true }

def refresh (r : Rules) (t : TrafficContext) : TrafficContext :=
  { t with marked := r.isMarked t }

def traceId? (r : Rules) (t : TrafficContext) : Option String :=
  t.get? r.traceIdKey

end Rules

end ShadowTraffic
