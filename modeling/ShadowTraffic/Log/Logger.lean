import ShadowTraffic.Config.Settings
import ShadowTraffic.Log.Selection
import ShadowTraffic.Telemetry.Notice

/-! # Loggers

A logger writes the notices that its filter lets through, together with the spans that are open.
It is installed once; there are three ways of making one, and a filter in the environment comes
before the one of the settings.
-/

namespace ShadowTraffic

namespace Callsite

def ofNotice (n : Notice) : Callsite where
  isSpan := false
  name := n.message
  target := n.target
  level := n.level
  fields := "message" :: n.fieldNames

def ofSpan (s : Span) : Callsite where
  isSpan := true
  name := s.name
  target := Span.target
  level := Span.level
  fields := s.fieldNames

end Callsite

/-- How records are written: as JSON, with the innermost span, with all of them or with neither, or
for people. -/
inductive RecordFormat where
  | json (innermost all : Bool)
  | text
deriving DecidableEq

structure Logger where
  filter : LogFilter
  format : RecordFormat
deriving DecidableEq

inductive LoggerKind where
  | structured
  | console
  | configured (s : LoggingSettings)
deriving DecidableEq

inductive LoggingError where
  | invalidLevel (level : String)
  | installed (format : RecordFormat)
deriving DecidableEq

def LoggingError.message : LoggingError → String
  | invalidLevel level => "Invalid log level: " ++ level
  | installed (.json ..) => "Failed to install JSON tracing subscriber"
  | installed .text => "Failed to install console tracing subscriber"

namespace LoggerKind

def format : LoggerKind → RecordFormat
  | structured => .json false true
  | console => .text
  | configured s => if s.json then .json s.includeSpans s.includeSpans else .text

/-- The filter in the environment, if there is a valid one. -/
def settingFilter? (setting : Option String) : Option LogFilter :=
  setting.bind fun text => (LogFilter.parse text).toOption

/-- The filter that is used when the environment has none. -/
def ownFilter : LoggerKind → Except LoggingError LogFilter
  | structured | console => .ok [{ level := .info }]
  | configured s =>
    match LogFilter.parse s.level with
    | .ok f => .ok f
    | .error _ => .error (.invalidLevel s.level)

def filter (kind : LoggerKind) (setting : Option String) : Except LoggingError LogFilter :=
  match settingFilter? setting with
  | some f => .ok f
  | none => kind.ownFilter

/-- Makes a logger and installs it, unless there is one. -/
def install (kind : LoggerKind) (setting : Option String) (present : Option Logger) :
    Except LoggingError Logger := do
  let filter ← kind.filter setting
  match present with
  | some _ => .error (.installed kind.format)
  | none => pure ⟨filter, kind.format⟩

/-- What is reported once the logger is there. -/
def notice : LoggerKind → Notice
  | structured => .structuredLogging
  | console => .consoleLogging
  | configured s => .logging s.level s.json s.includeSpans

end LoggerKind

/-- The spans that are open and let through, outermost first, and the levels they ask for. -/
structure OpenSpans where
  spans : List Span := []
  levels : List Level := []

structure LogRecord where
  notice : Notice
  spans : List Span

namespace Logger

def enter (l : Logger) (outer : OpenSpans) (s : Span) : OpenSpans :=
  let callsite := Callsite.ofSpan s
  if l.filter.admits outer.levels callsite then
    let texts := s.fields.filterMap fun f =>
      match f.2 with
      | .text value => some (f.1, value)
      | _ => none
    { spans := outer.spans ++ [s]
      levels := outer.levels ++ ((l.filter.spanLevels callsite).map (·.level texts)).toList }
  else outer

/-- The record of a notice, if it is let through. -/
def record (l : Logger) (inside : OpenSpans) (n : Notice) : Option LogRecord :=
  if l.filter.admits inside.levels (Callsite.ofNotice n) then some ⟨n, inside.spans⟩ else none

end Logger

namespace LogRecord

def value : FieldValue → Document
  | .text s => .text s
  | .count n => .int n
  | .flag b => .bool b
  | .time => .null

/-- A span in a record: its fields and its name, which stands for a field of that name too. -/
def spanDocument (s : Span) : Document :=
  .table (s.fields.map (fun f => (f.1, value f.2)) ++ [("name", .text s.name)])

/-- The spans of a record as the format shows them. -/
def spanFields (r : LogRecord) : RecordFormat → List (String × Document)
  | .json innermost all =>
    match r.spans.getLast? with
    | none => []
    | some last =>
      (if innermost then [("span", spanDocument last)] else []) ++
        (if all then [("spans", .list (r.spans.map spanDocument))] else [])
  | .text => []

def document (r : LogRecord) (format : RecordFormat) : Document :=
  .table ([("level", .text r.notice.level.name),
    ("fields", .table (("message", .text r.notice.message) ::
      r.notice.fields.map fun f => (f.1, value f.2))),
    ("target", .text r.notice.target)] ++ r.spanFields format)

end LogRecord

end ShadowTraffic
