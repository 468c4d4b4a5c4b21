import ShadowTraffic.Config.Settings
import ShadowTraffic.Document
import ShadowTraffic.Identity
import ShadowTraffic.Number.Reading
import ShadowTraffic.Number.Shortest
import ShadowTraffic.Text.Ascii

/-! # Settings from documents

A section is a table of its fields or a list of them in order; what is missing takes its default
and what is unknown is ignored. How a single value is read is a parameter: `strict` takes values
as they are, `coercing` also reads texts from numbers and truth values from numbers and words, as
a configuration file needs it.
-/

namespace ShadowTraffic

structure Decoding where
  /-- The text a value stands for. -/
  text? : Document → Option String
  /-- The truth value a value stands for. -/
  flag? : Document → Option Bool
  /-- Whether a list may go on behind the last field of its section. -/
  longLists : Bool
  /-- Whether a value may stand behind the name of a policy. -/
  behindName : Document → Bool

namespace Decoding

/-- Values are taken as they are. -/
def strict : Decoding where
  text? := Document.text?
  flag? := Document.bool?
  longLists := false
  behindName
    | .null => true
    | _ => false

def coercedText? : Document → Option String
  | .text s => some s
  | .bool b => some (if b then "true" else "false")
  | .int n => some (toString n)
  | .real x => some (Number.floatText x)
  | _ => none

/-- The truth value of a word, in any ASCII case. -/
def flagOfWord? (word : String) : Option Bool :=
  match Text.asciiLower word with
  | "1" | "true" | "on" | "yes" => some true
  | "0" | "false" | "off" | "no" => some false
  | _ => none

/-- The truth value a scalar stands for; of the numbers only zero is false. -/
def coercedFlag? : Document → Option Bool
  | .bool b => some b
  | .int n => some (n != 0)
  | .real x => some (x != 0.0)
  | .text s => flagOfWord? s
  | _ => none

/-- Scalars are read for what is wanted of them. -/
def coercing : Decoding where
  text? := coercedText?
  flag? := coercedFlag?
  longLists := true
  behindName _ := true

/-- A field of a section: by name in a table, by place in a list. -/
def member? (doc : Document) (place : Nat) (name : String) : Option Document :=
  match doc with
  | .list items => items[place]?
  | doc => doc.field? name

/-- Whether a value can be a section with so many fields. -/
def isSection (d : Decoding) (count : Nat) : Document → Bool
  | .table _ => true
  | .list items => d.longLists || items.length ≤ count
  | _ => false

/-- A field read by a function, a default when it is missing. -/
def orDefault {α : Type} (read : Document → Option α) (default : α) :
    Option Document → Option α
  | none => some default
  | some value => read value

def texts? (d : Decoding) : Document → Option (List String)
  | .list items => items.mapM d.text?
  | _ => none

/-- A text, or none for null. -/
def optionalText? (d : Decoding) : Document → Option (Option String)
  | .null => some none
  | value => (d.text? value).map some

/-- A policy by its exact name, also as a table of that single name. -/
def policy? (d : Decoding) : Document → Option Policy
  | .text name => Policy.ofName? name
  | .table [(name, value)] => if d.behindName value then Policy.ofName? name else none
  | _ => none

def marker? (d : Decoding) (doc : Document) : Option MarkerSettings := do
  if d.isSection 7 doc then pure () else none
  let s : MarkerSettings := {}
  pure {
    markerKey := ← orDefault d.text? s.markerKey (member? doc 0 "marker_key")
    traceIdKey := ← orDefault d.text? s.traceIdKey (member? doc 1 "trace_id_key")
    truthyValues := ← orDefault d.texts? s.truthyValues (member? doc 2 "truthy_values")
    propagationKeys := ← orDefault d.texts? s.propagationKeys (member? doc 3 "propagation_keys")
    testPrefix := ← orDefault d.optionalText? s.testPrefix (member? doc 4 "test_prefix")
    wrapperPrefixes := ← orDefault d.texts? s.wrapperPrefixes (member? doc 5 "wrapper_prefixes")
    patterns := ← orDefault d.texts? s.patterns (member? doc 6 "patterns") }

def routing? (d : Decoding) (doc : Document) : Option RoutingSettings := do
  if d.isSection 3 doc then pure () else none
  let s : RoutingSettings := {}
  pure {
    enabled := ← orDefault d.flag? s.enabled (member? doc 0 "enabled")
    flagFallback := ← orDefault d.flag? s.flagFallback (member? doc 1 "flag_fallback")
    whitelist := ← orDefault d.texts? s.whitelist (member? doc 2 "whitelist") }

def scope? (d : Decoding) (doc : Document) : Option ScopeSettings := do
  if d.isSection 1 doc then pure () else none
  let s : ScopeSettings := {}
  pure { defaultPolicy := ← orDefault d.policy? s.defaultPolicy (member? doc 0 "default_policy") }

def logging? (d : Decoding) (doc : Document) : Option LoggingSettings := do
  if d.isSection 3 doc then pure () else none
  let s : LoggingSettings := {}
  pure {
    level := ← orDefault d.text? s.level (member? doc 0 "level")
    json := ← orDefault d.flag? s.json (member? doc 1 "json")
    includeSpans := ← orDefault d.flag? s.includeSpans (member? doc 2 "include_spans") }

def settings? (d : Decoding) (doc : Document) : Option Settings := do
  if d.isSection 4 doc then pure () else none
  pure {
    marker := ← orDefault d.marker? {} (member? doc 0 "marker")
    routing := ← orDefault d.routing? {} (member? doc 1 "routing")
    scope := ← orDefault d.scope? {} (member? doc 2 "scope")
    logging := ← orDefault d.logging? {} (member? doc 3 "logging") }

end Decoding

/-- A descriptor from a document, read as it stands: a table whose fields are texts or null, or a
list of up to five of them. -/
def Descriptor.ofDocument? (doc : Document) : Option Descriptor := do
  let d := Decoding.strict
  if d.isSection 5 doc then pure () else none
  let read (place : Nat) (name : String) :=
    Decoding.orDefault d.optionalText? none (Decoding.member? doc place name)
  pure {
    endpoint := ← read 0 "endpoint"
    port := ← read 1 "port"
    space := ← read 2 "namespace"
    credentialToken := ← read 3 "credential_token"
    principal := ← read 4 "principal" }

end ShadowTraffic
