import ShadowTraffic.Number.Reading
import ShadowTraffic.Text.Ascii
import ShadowTraffic.Text.Blank
import ShadowTraffic.Text.Pieces
import ShadowTraffic.Text.Numeric

/-! # Log filters

A filter is a list of directives between commas. A directive names where it holds, by the
beginning of a target and by a span with its fields, and the most detailed level it lets through.
Its characters drive a small machine; what lies between two offsets is cut from the directive as
it stands, while the offsets are those of the directive without the blanks around it, so a
directive with blanks in front of it is cut too early.
-/

namespace ShadowTraffic

/-- How much detail is let through, from nothing to everything. -/
inductive Level where
  | off
  | error
  | warn
  | info
  | debug
  | trace
deriving DecidableEq, Inhabited

namespace Level

def detail : Level → Nat
  | off => 0
  | error => 1
  | warn => 2
  | info => 3
  | debug => 4
  | trace => 5

def name : Level → String
  | off => "OFF"
  | error => "ERROR"
  | warn => "WARN"
  | info => "INFO"
  | debug => "DEBUG"
  | trace => "TRACE"

def ofDetail? : Nat → Option Level
  | 0 => some off
  | 1 => some error
  | 2 => some warn
  | 3 => some info
  | 4 => some debug
  | 5 => some trace
  | _ => none

/-- A level by its number or, in any ASCII case, by its name. -/
def parse? (s : String) : Option Level :=
  let digits := match s.toList with
    | '+' :: cs => cs
    | cs => cs
  match Number.natural? 10 digits with
  | some n => ofDetail? n
  | none =>
    match Text.asciiLower s with
    | "off" => some off
    | "error" => some error
    | "warn" => some warn
    | "info" => some info
    | "debug" => some debug
    | "trace" => some trace
    | _ => none

end Level

inductive FilterFault where
  | malformed
  | unknownLevel
deriving DecidableEq

def FilterFault.message : FilterFault → String
  | malformed => "invalid filter directive"
  | unknownLevel =>
    "error parsing level filter: expected one of \"off\", \"error\", \"warn\", \"info\", " ++
      "\"debug\", \"trace\", or a number 0-5"

/-- Where a directive holds and how much it lets through. -/
structure Directive where
  target : Option String := none
  span : Option String := none
  field : Option String := none
  level : Level := .trace
deriving DecidableEq, Inhabited

namespace Directive

/-- Where the machine is; numbers are byte offsets at which a part began. -/
inductive State where
  | start
  | levelOrTarget (start : Nat)
  | span (start : Nat)
  | field (start : Nat)
  | fields
  | target
  | level (start : Nat)

/-- What is left of a text behind so many bytes; offsets inside a character cut nothing. -/
def dropBytes : Nat → List Char → Option (List Char)
  | 0, cs => some cs
  | _, [] => none
  | n, c :: rest => if c.utf8Size ≤ n then dropBytes (n - c.utf8Size) rest else none

def takeBytes : Nat → List Char → Option (List Char)
  | 0, _ => some []
  | _, [] => none
  | n, c :: rest =>
    if c.utf8Size ≤ n then (takeBytes (n - c.utf8Size) rest).map (c :: ·) else none

def slice (cs : List Char) (low high : Nat) : Option String := do
  pure (String.ofList (← takeBytes (high - low) (← dropBytes low cs)))

def startsTarget (c : Char) : Bool :=
  c == '-' || c == ':' || c == '_' || Text.isAlphanumeric c

/-- One character at an offset: the next state and the directive as far as it is known. -/
def step (whole : List Char) (here : Nat) (c : Char) :
    State → Directive → Option (State × Directive)
  | .start, d =>
    if c == '[' then some (.span (here + 1), d)
    else if startsTarget c then some (.levelOrTarget here, d)
    else none
  | .levelOrTarget start, d =>
    if c == '=' then do
      pure (.level (here + 1), { d with target := some (← slice whole start here) })
    else if c == '[' then do
      pure (.span (here + 1), { d with target := some (← slice whole start here) })
    else some (.levelOrTarget start, d)
  | .span start, d =>
    if c == ']' then do pure (.target, { d with span := some (← slice whole start here) })
    else if c == '\x7b' then do
      let name ← slice whole start here
      pure (.field (here + 1), { d with span := if name.isEmpty then none else some name })
    else some (.span start, d)
  | .field start, d =>
    if c == '\x7d' then do
      let field ← slice whole start here
      if field.isEmpty then none else pure (.fields, { d with field := some field })
    else some (.field start, d)
  | .fields, d => if c == ']' then some (.target, d) else none
  | .target, d => if c == '=' then some (.level (here + 1), d) else none
  | .level start, d => some (.level start, d)

def scan (whole : List Char) :
    Nat → List Char → State → Directive → Option (State × Directive)
  | _, [], state, d => some (state, d)
  | here, c :: rest, state, d => do
    let (state, d) ← step whole here c state d
    scan whole (here + c.utf8Size) rest state d

/-- A directive with the level a text names; without a text everything is let through. -/
def withLevel (d : Directive) (text : String) : Except FilterFault Directive :=
  if text.isEmpty then .ok d
  else
    match Level.parse? text with
    | some level => .ok { d with level }
    | none => .error .unknownLevel

/-- What the machine ends with: a level, a target, or a span with its level or without one. -/
def finish (whole : List Char) (state : State) (d : Directive) : Except FilterFault Directive :=
  match state with
  | .target => .ok d
  | .levelOrTarget start =>
    match dropBytes start whole with
    | none => .error .malformed
    | some cs =>
      let text := String.ofList cs
      match Level.parse? text with
      | some level => .ok { d with level }
      | none => .ok { d with target := some text }
  | .level start =>
    match dropBytes start whole with
    | none => .error .malformed
    | some cs => d.withLevel (String.ofList cs)
  | _ => .error .malformed

def parse (piece : String) : Except FilterFault Directive :=
  let whole := piece.toList
  match scan whole 0 (Text.trimChars whole) .start {} with
  | some (state, d) => finish whole state d
  | none => .error .malformed

end Directive

abbrev LogFilter := List Directive

namespace LogFilter

/-- The directives of a text: its pieces between commas, empty ones left out. -/
def parse (s : String) : Except FilterFault LogFilter :=
  ((Text.pieces s ",").filter (! ·.isEmpty)).mapM Directive.parse

end LogFilter

end ShadowTraffic
