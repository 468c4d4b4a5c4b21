import ShadowTraffic.Text.CodeRange
import ShadowTraffic.Text.Word

/-! # Name patterns and what they match

A pattern is a regular expression over Unicode text, searched for anywhere in a name. Matching is
said with positions: `reach p starts` lists where matches of `p` that begin at one of the starts
can end, so alternatives are joined lists and a repetition is the closure of one step. Greediness
plays no part, since only the existence of a match is asked for. Lists of positions ascend, and
all starts are followed at once, which keeps the work in proportion to the text.
-/

namespace ShadowTraffic

/-- Where a place lies with regard to words: at an edge, at none, where a word starts or ends, or
where none goes on before it or after it. -/
inductive WordEdge where
  | atEdge
  | offEdge
  | atStart
  | atStop
  | startHalf
  | stopHalf
deriving DecidableEq

/-- A condition on a place. Words are those of Unicode or of ASCII. -/
inductive Anchor where
  | textStart
  | textEnd
  | lineStart
  | lineEnd
  | returnLineStart
  | returnLineEnd
  | word (edge : WordEdge) (ascii : Bool)
deriving DecidableEq

/-- Whether an edge is what word characters before and after a place make of it. -/
def WordEdge.holds (e : WordEdge) (before after : Bool) : Bool :=
  match e with
  | atEdge => before != after
  | offEdge => before == after
  | atStart => !before && after
  | atStop => before && !after
  | startHalf => !before
  | stopHalf => !after

/-- Whether a place meets the condition. Lines end at line feeds, or also at carriage returns, of
which one directly before a line feed belongs to it. -/
def Anchor.holds (a : Anchor) (before after : Option Char) : Bool :=
  match a with
  | textStart => before.isNone
  | textEnd => after.isNone
  | lineStart => before.all (· == '\n')
  | lineEnd => after.all (· == '\n')
  | returnLineStart =>
    before.all (· == '\n') || (before == some '\r' && after != some '\n')
  | returnLineEnd =>
    after.all (· == '\r') || (after == some '\n' && before != some '\r')
  | word edge ascii =>
    let isWord := if ascii then Text.isAsciiWord else Text.isWord
    edge.holds (before.any isWord) (after.any isWord)

/-- A regular expression; a group is a part whose text can be asked for. -/
inductive Pattern where
  | nothing
  | char (set : Text.CodeRanges)
  | anchor (a : Anchor)
  | seq (a b : Pattern)
  | alt (a b : Pattern)
  | times (a : Pattern) (min : Nat) (max : Option Nat)
  | group (a : Pattern)

namespace Pattern

/-- One pattern after another; nothing before or after a pattern leaves it as it is. -/
def andThen : Pattern → Pattern → Pattern
  | nothing, q => q
  | p, nothing => p
  | p, q => seq p q

/-- Whether a pattern never matches a character. -/
def isEmpty : Pattern → Bool
  | nothing => true
  | char _ => false
  | anchor _ => true
  | seq a b => a.isEmpty && b.isEmpty
  | alt a b => a.isEmpty && b.isEmpty
  | times a _ _ => a.isEmpty
  | group a => a.isEmpty

/-- A repetition; once is the pattern itself, never is nothing, and what never matches a character
need not be repeated more than once. -/
def repeated (a : Pattern) (min : Nat) (max : Option Nat) : Pattern :=
  let min := if a.isEmpty then Nat.min min 1 else min
  let max := if a.isEmpty then some (Nat.min (max.getD 1) 1) else max
  if max == some 0 then nothing
  else if min == 1 && max == some 1 then a
  else times a min max

end Pattern

/-- Positions in a text, in ascending order. -/
abbrev Positions := List Nat

namespace Positions

/-- The positions of both lists. -/
def merge : Positions → Positions → Positions
  | [], bs => bs
  | as, [] => as
  | a :: as, b :: bs =>
    if a < b then a :: merge as (b :: bs)
    else if b < a then b :: merge (a :: as) bs
    else a :: merge as bs
termination_by as bs => as.length + bs.length

/-- The positions of the first list that the second lacks. -/
def without : Positions → Positions → Positions
  | [], _ => []
  | as, [] => as
  | a :: as, b :: bs =>
    if a < b then a :: without as (b :: bs)
    else if b < a then without (a :: as) bs
    else without as bs
termination_by as bs => as.length + bs.length

/-- Positions reached by taking a step exactly `n` times; once a step changes nothing, no further
one does. -/
def exactly (step : Positions → Positions) : Nat → Positions → Positions
  | 0, ps => ps
  | n + 1, ps =>
    let next := step ps
    if next == ps then ps else exactly step n next

/-- Positions reached by taking a step at most `n` times; only `fresh` ones are stepped from. -/
def upTo (step : Positions → Positions) : Nat → (seen fresh : Positions) → Positions
  | 0, seen, _ => seen
  | n + 1, seen, fresh =>
    let next := (step fresh).without seen
    if next.isEmpty then seen else upTo step n (seen.merge next) next

end Positions

namespace Pattern

/-- Where matches that begin at some positions can end. No more steps than the text has characters
lead anywhere new, and a longer run of steps contains one that goes nowhere. -/
def reach (text : Array Char) : Pattern → Positions → Positions
  | nothing, ps => ps
  | char set, ps => (ps.filter fun i => text[i]?.any set.holds).map (· + 1)
  | anchor a, ps => ps.filter fun i => a.holds (if i = 0 then none else text[i - 1]?) text[i]?
  | seq a b, ps => b.reach text (a.reach text ps)
  | alt a b, ps => (a.reach text ps).merge (b.reach text ps)
  | times a min max, ps =>
    let step (qs : Positions) : Positions := a.reach text qs
    let first := Positions.exactly step (Nat.min min (text.size + 1)) ps
    let more := match max with
      | some max => Nat.min (max - min) text.size
      | none => text.size
    Positions.upTo step more first first
  | group a, ps => a.reach text ps

/-- Whether the pattern matches some part of a text. -/
def found (pattern : Pattern) (s : String) : Bool :=
  let text := s.toList.toArray
  !(pattern.reach text (List.range (text.size + 1))).isEmpty

/-- Whether the pattern matches the whole of a text. -/
def spans (pattern : Pattern) (s : String) : Bool :=
  let text := s.toList.toArray
  (pattern.reach text [0]).contains text.size

end Pattern

end ShadowTraffic
