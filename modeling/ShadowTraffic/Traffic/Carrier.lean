import ShadowTraffic.Traffic.Rules

/-! # Carriers

What a transport offers to carry entries in: a map of texts, or the headers of a request. Header
names are kept in lower case and admit the characters of a token; a header value is bytes, and
only some bytes can be read back as text. An entry a transport cannot represent is left out when a
context is injected, and the rest goes on.
-/

namespace ShadowTraffic

inductive CarrierError where
  | invalidKey (key : String)
  | invalidValue (key : String)
deriving DecidableEq

def CarrierError.message : CarrierError → String
  | invalidKey key => "Invalid carrier key: " ++ key
  | invalidValue key => "Invalid carrier value for key '" ++ key ++ "'"

/-! ## Headers -/

abbrev HeaderValue := List UInt8

/-- Headers by lower-case name; the values of one name in the order they were added. -/
structure Headers where
  fields : Dictionary (List HeaderValue) := .empty
deriving DecidableEq, Inhabited

namespace Headers

def isTokenChar (c : Char) : Bool :=
  Text.isAsciiAlphanumeric c || "!#$%&'*+-.^_`|~".toList.contains c

def isName (s : String) : Bool :=
  !s.isEmpty && s.toList.length ≤ 65535 && s.toList.all isTokenChar

def isValueByte (b : UInt8) : Bool :=
  (b ≥ 0x20 && b != 0x7F) || b == 0x09

/-- Bytes that are read back as text. -/
def isVisibleByte (b : UInt8) : Bool :=
  (b ≥ 0x20 && b < 0x7F) || b == 0x09

/-- The header value of a text, if its bytes make one. -/
def valueOfText? (s : String) : Option HeaderValue :=
  let bytes := s.toUTF8.toList
  if bytes.all isValueByte then some bytes else none

/-- The text of a header value, if every byte of it is visible. -/
def textOfValue? (v : HeaderValue) : Option String :=
  if v.all isVisibleByte then some (String.ofList (v.map fun b => Char.ofNat b.toNat)) else none

/-- The first value of a name, whatever case the name is given in. -/
def first? (h : Headers) (name : String) : Option HeaderValue :=
  if isName name then (h.fields.get? (Text.asciiLower name)).bind List.head? else none

/-- Puts a value in the place of all values of a name. -/
def set (h : Headers) (name : String) (v : HeaderValue) : Headers :=
  ⟨h.fields.insert (Text.asciiLower name) [v]⟩

def append (h : Headers) (name : String) (v : HeaderValue) : Headers :=
  ⟨h.fields.modify (Text.asciiLower name) [] (· ++ [v])⟩

end Headers

/-! ## Carriers -/

inductive Carrier where
  | map (entries : Dictionary String)
  | headers (h : Headers)
deriving DecidableEq

namespace Carrier

def get? : Carrier → String → Option String
  | map entries, key => entries.get? key
  | headers h, key => (h.first? key).bind Headers.textOfValue?

/-- Puts a text under a key in the place of what was there. -/
def set : Carrier → (key value : String) → Except CarrierError Carrier
  | map entries, key, value => .ok (.map (entries.insert key value))
  | headers h, key, value =>
    if Headers.isName key then
      match Headers.valueOfText? value with
      | some v => .ok (.headers (h.set key v))
      | none => .error (.invalidValue key)
    else .error (.invalidKey key)

end Carrier

/-! ## Moving a context -/

/-- What an injection leaves: the carrier, how many entries it took, and those it did not. -/
structure Injection where
  carrier : Carrier
  written : Nat := 0
  skipped : List (String × CarrierError) := []

def Injection.add (i : Injection) (key value : String) : Injection :=
  match i.carrier.set key value with
  | .ok carrier => { i with carrier, written := i.written + 1 }
  | .error e => { i with skipped := i.skipped ++ [(key, e)] }

/-- Writes every entry of a context that the transport takes, in order of the keys. -/
def TrafficContext.inject (t : TrafficContext) (carrier : Carrier) : Injection :=
  t.entries.entries.foldl (fun i e => i.add e.1 e.2) { carrier }

/-- The context a carrier brings: its values under the propagation keys, the flag derived. -/
def Rules.adopt (r : Rules) (carrier : Carrier) : TrafficContext :=
  let t := r.propagationKeys.keys.foldl (fun (t : TrafficContext) key =>
    match carrier.get? key with
    | some value => t.insert key value
    | none => t) {}
  r.refresh t

end ShadowTraffic
