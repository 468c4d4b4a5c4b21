import ShadowTraffic.Log.Filter
import ShadowTraffic.Pattern.Grammar

/-! # What a filter lets through

Whatever is reported comes from a callsite, a place in the program with a target, a level and
named fields. Of the directives that look at a callsite alone the most specific one that holds
there decides, whatever its level. A directive for spans lets the spans it names through, and
everything that is detailed no more than its level while one of them is open. Nothing is let
through that is more detailed than every directive.
-/

namespace ShadowTraffic

structure Callsite where
  isSpan : Bool
  name : String
  target : String
  level : Level
  fields : List String

/-- What a directive asks of a field: that it is there, or that its text is of a pattern. No text
is equal to a number or a truth value. -/
inductive FieldTest where
  | present
  | noText
  | whole (p : Pattern)

namespace FieldTest

def ofValue (value : String) : FieldTest :=
  if value == "true" || value == "false" || (Number.float? value).isSome then noText
  else
    match Pattern.read value with
    | .ok p => whole p
    | .error _ => noText

def holds (t : FieldTest) (s : String) : Bool :=
  match t with
  | present => true
  | noText => false
  | whole p => p.spans s

/-- Whether only the presence of the field is asked for. -/
def isPresent : FieldTest → Bool
  | present => true
  | _ => false

end FieldTest

namespace Directive

/-- The name of the field asked for, and the test of its value. -/
def fieldTest (d : Directive) : Option (String × FieldTest) :=
  d.field.map fun text =>
    match Text.pieces text "=" with
    | name :: value :: _ => (name, .ofValue value)
    | _ => (text, .present)

/-- Whether the directive looks at spans that are open. -/
def isDynamic (d : Directive) : Bool :=
  d.span.isSome || d.field.isSome

/-- Whether the directive looks at callsites alone. -/
def isStatic (d : Directive) : Bool :=
  d.span.isNone && d.fieldTest.all (·.2.isPresent)

def coversTarget (d : Directive) (c : Callsite) : Bool :=
  d.target.all fun target => Text.startsWith c.target target

def coversField (d : Directive) (c : Callsite) : Bool :=
  d.fieldTest.all fun test => c.fields.contains test.1

/-- Whether a directive that looks at callsites alone holds at one; spans are not asked for
fields. -/
def coversStatic (d : Directive) (c : Callsite) : Bool :=
  d.coversTarget c && (c.isSpan || d.coversField c)

def coversSpan (d : Directive) (c : Callsite) : Bool :=
  c.isSpan && d.coversTarget c && d.span.all (· == c.name) && d.coversField c

/-- The order of an optional text: absent ones first. -/
def compareText (a b : Option String) : Ordering :=
  match a, b with
  | none, none => .eq
  | none, some _ => .lt
  | some _, none => .gt
  | some a, some b => compare a b

/-- The order of specificity: longer targets, then fields, then the texts of both. -/
def compareSpecificity (a b : Directive) : Ordering :=
  let size (s : Option String) := match s with
    | none => 0
    | some s => s.utf8ByteSize + 1
  ((compare (size a.target) (size b.target)).then
    (compare a.field.isSome.toNat b.field.isSome.toNat)).then
    ((compareText a.target b.target).then (compareText a.field b.field))

/-- A directive put before those less specific, in place of one for the same. -/
def place (d : Directive) : List Directive → List Directive
  | [] => [d]
  | e :: rest =>
    match compareSpecificity d e with
    | .gt => d :: e :: rest
    | .eq => d :: rest
    | .lt => e :: place d rest

end Directive

def Level.max (a b : Level) : Level :=
  if a.detail < b.detail then b else a

def Level.admits (a b : Level) : Bool :=
  b.detail ≤ a.detail

/-- What the directives for a span ask of its fields, each with its level. -/
abbrev SpanLevels := List (Option (String × FieldTest) × Level)

namespace LogFilter

/-- The directives that look at callsites alone, the most specific first. -/
def statics (f : LogFilter) : List Directive :=
  (f.filter (!·.isDynamic) ++ f.filter fun d => d.isDynamic && d.isStatic).foldl
    (fun ds d => d.place ds) []

/-- The directives for spans; of two for the same the later counts. -/
def dynamics : LogFilter → List Directive
  | [] => []
  | d :: rest =>
    let later := dynamics rest
    let isSame (e : Directive) := e.target == d.target && e.span == d.span && e.field == d.field
    if d.isDynamic && !later.any isSame then d :: later else later

def admitsStatically (f : LogFilter) (c : Callsite) : Bool :=
  match f.statics.find? (·.coversStatic c) with
  | some d => d.level.admits c.level
  | none => false

/-- The levels of spans of a callsite, if a directive names them. -/
def spanLevels (f : LogFilter) (c : Callsite) : Option SpanLevels :=
  match f.dynamics.filter (·.coversSpan c) with
  | [] => none
  | ds => some (ds.map fun d => (d.fieldTest, d.level))

/-- The most detailed level of all; tests of values need every span. -/
def mostDetailed (f : LogFilter) : Level :=
  if f.any fun d => d.fieldTest.any (!·.2.isPresent) then .trace
  else f.foldl (fun level d => level.max d.level) .off

/-- Whether a callsite is let through inside open spans that have these levels. -/
def admits (f : LogFilter) (openLevels : List Level) (c : Callsite) : Bool :=
  f.mostDetailed.admits c.level &&
    ((f.spanLevels c).isSome || f.admitsStatically c || openLevels.any (·.admits c.level))

end LogFilter

/-- The level of a span with these texts as its fields: the most detailed one whose test, if there
is any, is passed. That a field is there needs no test. -/
def SpanLevels.level (s : SpanLevels) (fields : List (String × String)) : Level :=
  let passes : Option (String × FieldTest) → Bool
    | none => true
    | some (name, test) => test.isPresent || fields.any fun f => f.1 == name && test.holds f.2
  (s.filter (passes ·.1)).foldl (fun level d => level.max d.2) .off

end ShadowTraffic
