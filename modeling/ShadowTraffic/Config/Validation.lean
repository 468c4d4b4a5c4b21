import ShadowTraffic.Log.Filter
import ShadowTraffic.Traffic.Carrier

/-! # Checking settings

`problems` lists everything that is wrong with settings, in the order of the sections and of the
fields in them. Entries of a list are looked at one by one, and an entry is a duplicate when one
before it counts as the same: propagation keys up to ASCII case, whitelist entries exactly.
-/

namespace ShadowTraffic

inductive Problem where
  | markerKeyMissing
  | markerKeyNoHeader (key : String)
  | traceIdKeyNoHeader (key : String)
  | traceIdKeyIsMarkerKey
  | noTruthyValues
  | blankTruthyValue (index : Nat)
  | propagationKeyNoHeader (index : Nat) (key : String)
  | duplicatePropagationKey (index : Nat) (key : String)
  | emptyTestPrefix
  | emptyWrapper (index : Nat)
  | invalidPattern (index : Nat) (source : String) (fault : Pattern.Fault)
  | blankWhitelistEntry (index : Nat)
  | duplicateWhitelistEntry (index : Nat) (resource : String)
  | invalidLevel (level : String) (fault : FilterFault)
deriving DecidableEq

namespace Problem

def entry (field : String) (index : Nat) : String :=
  field ++ "[" ++ toString index ++ "]"

/-- A required field without a value. -/
def missing (field : String) : String :=
  "Missing required field: " ++ field

def invalid (field complaint : String) : String :=
  "Invalid field '" ++ field ++ "': " ++ complaint

def noHeader (field key : String) : String :=
  invalid field ("'" ++ key ++ "' is not a valid header name")

def summary : Problem → String
  | markerKeyMissing => missing "marker.marker_key"
  | markerKeyNoHeader key => noHeader "marker.marker_key" key
  | traceIdKeyNoHeader key => noHeader "marker.trace_id_key" key
  | traceIdKeyIsMarkerKey =>
    invalid "marker.trace_id_key" "Trace id key must differ from the marker key"
  | noTruthyValues => missing "marker.truthy_values"
  | blankTruthyValue i =>
    invalid (entry "marker.truthy_values" i) "Truthy values must not be blank"
  | propagationKeyNoHeader i key => noHeader (entry "marker.propagation_keys" i) key
  | duplicatePropagationKey i key =>
    invalid (entry "marker.propagation_keys" i) ("Duplicate propagation key '" ++ key ++ "'")
  | emptyTestPrefix =>
    invalid "marker.test_prefix"
      "Use no prefix instead of an empty one; an empty prefix marks every resource"
  | emptyWrapper i =>
    invalid (entry "marker.wrapper_prefixes" i) "Wrapper prefixes must not be empty"
  | invalidPattern i source _ =>
    invalid (entry "marker.patterns" i) ("Invalid regular expression '" ++ source ++ "'")
  | blankWhitelistEntry i =>
    invalid (entry "routing.whitelist" i) "Whitelisted resource names must not be blank"
  | duplicateWhitelistEntry i resource =>
    invalid (entry "routing.whitelist" i) ("Duplicate whitelisted resource '" ++ resource ++ "'")
  | invalidLevel level _ => invalid "logging.level" ("Invalid filter directive '" ++ level ++ "'")

def detail? : Problem → Option String
  | invalidPattern _ source fault => some (fault.describe source)
  | invalidLevel _ fault => some fault.message
  | _ => none

def message (p : Problem) : String :=
  match p.detail? with
  | some detail => p.summary ++ ": " ++ detail
  | none => p.summary

end Problem

/-- The problems found at the entries of a list, given the entries before each. -/
def entryProblems (check : Nat → (before : List String) → String → List Problem)
    (index : Nat) (before : List String) : List String → List Problem
  | [] => []
  | x :: rest => check index before x ++ entryProblems check (index + 1) (before ++ [x]) rest

def Problem.when (condition : Bool) (p : Problem) : List Problem :=
  if condition then [p] else []

namespace MarkerSettings

/-- The marker key must be there and name a header. -/
def markerKeyProblems (s : MarkerSettings) : List Problem :=
  if Text.isBlank s.markerKey then [.markerKeyMissing]
  else Problem.when (!Headers.isName s.markerKey) (.markerKeyNoHeader s.markerKey)

/-- The trace id key must name a header other than the marker key. -/
def traceIdKeyProblems (s : MarkerSettings) : List Problem :=
  if Headers.isName s.traceIdKey then
    Problem.when (Text.sameAscii s.traceIdKey s.markerKey) .traceIdKeyIsMarkerKey
  else [.traceIdKeyNoHeader s.traceIdKey]

/-- There must be truthy values, none of them blank. -/
def truthyProblems (s : MarkerSettings) : List Problem :=
  Problem.when s.truthyValues.isEmpty .noTruthyValues ++
    entryProblems (fun i _ value => Problem.when (Text.isBlank value) (.blankTruthyValue i)) 0 []
      s.truthyValues

/-- Propagation keys must name headers, each once up to ASCII case. -/
def propagationProblems (s : MarkerSettings) : List Problem :=
  entryProblems (fun i before key =>
    Problem.when (!Headers.isName key) (.propagationKeyNoHeader i key) ++
      Problem.when (before.any (Text.sameAscii key)) (.duplicatePropagationKey i key)) 0 []
    s.propagationKeys

/-- Prefixes must not be empty. -/
def prefixProblems (s : MarkerSettings) : List Problem :=
  Problem.when (s.testPrefix == some "") .emptyTestPrefix ++
    entryProblems (fun i _ wrapper => Problem.when wrapper.isEmpty (.emptyWrapper i)) 0 []
      s.wrapperPrefixes

/-- Patterns must be expressions. -/
def patternProblems (s : MarkerSettings) : List Problem :=
  entryProblems (fun i _ source =>
    match Pattern.parse source with
    | .ok _ => []
    | .error fault => [.invalidPattern i source fault]) 0 [] s.patterns

end MarkerSettings

/-- Whitelist entries must not be blank, and each must occur once. -/
def RoutingSettings.problems (s : RoutingSettings) : List Problem :=
  entryProblems (fun i before resource =>
    if Text.isBlank resource then [.blankWhitelistEntry i]
    else Problem.when (before.contains resource) (.duplicateWhitelistEntry i resource)) 0 []
    s.whitelist

/-- The level must be a filter. -/
def LoggingSettings.problems (s : LoggingSettings) : List Problem :=
  match LogFilter.parse s.level with
  | .ok _ => []
  | .error fault => [.invalidLevel s.level fault]

namespace Settings

def problems (s : Settings) : List Problem :=
  s.marker.markerKeyProblems ++ s.marker.traceIdKeyProblems ++ s.marker.truthyProblems ++
    s.marker.propagationProblems ++ s.marker.prefixProblems ++ s.marker.patternProblems ++
    s.routing.problems ++ s.logging.problems

def numbered (tell : Problem → String) (index : Nat) : List Problem → String
  | [] => ""
  | p :: rest => "  " ++ toString index ++ ". " ++ tell p ++ "\n" ++ numbered tell (index + 1) rest

/-- A report of problems: one stands alone, several are counted and numbered. -/
def report (tell : Problem → String) : List Problem → String
  | [] => "No errors"
  | [p] => tell p
  | ps => "Found " ++ toString ps.length ++ " validation errors:\n" ++ numbered tell 1 ps

/-- Settings pass, or fail with all their problems. -/
def validate (s : Settings) : Except (List Problem) Unit :=
  match s.problems with
  | [] => .ok ()
  | ps => .error ps

/-- A failed validation as a person reads it, given how each problem is told. -/
def failure (tell : Problem → String) (ps : List Problem) : String :=
  "Validation failed: " ++ report tell ps

end Settings

end ShadowTraffic
