import ShadowTraffic.Pattern.Brackets
import ShadowTraffic.Text.Numeric

/-! # The written form of patterns

A pattern is read by recursive descent over its characters. Looking around is refused, and so is
every repetition without something to repeat. Each call of the reader takes at least one character
or returns, so twice the length of the text is fuel enough.
-/

namespace ShadowTraffic.Pattern

/-- What a piece of a sequence is: something that can be repeated, or a change of flags. -/
inductive Piece where
  | repeatable (p : Part Pattern)
  | flags (region : Region)

namespace Piece

def part : Piece → Part Pattern
  | repeatable p => p
  | flags region => { value := .nothing, region }

/-- The pieces of a sequence, in reverse, joined in order. -/
def sequence (pieces : List Piece) (region : Region) : Part Pattern :=
  let value := pieces.foldl (fun p piece => piece.part.value.andThen p) .nothing
  .joined value (pieces.reverse.map part) region

end Piece

/-! ## Repetitions -/

/-- Digits, and blanks between them in verbose text. -/
def countDigits : (fuel : Nat) → Cursor → List Char → List Char × Cursor
  | 0, c, read => (read.reverse, c)
  | fuel + 1, c, read =>
    match c.rest with
    | d :: _ =>
      if d.isDigit then countDigits fuel (c.past 1) (d :: read) else (read.reverse, c)
    | [] => (read.reverse, c)

/-- A count with blanks around it. What is wrong with it is only told where it is needed. -/
def count (c : Cursor) : Except Flaw Nat × Cursor :=
  let c := c.move (c.rest.dropWhile Text.isWhite)
  let (digits, after) := countDigits c.rest.length c []
  let n : Except Flaw Nat := match Number.natural? 10 digits with
    | none => fail .countEmpty (after.since c)
    | some n => if n < Nat.pow 2 32 then .ok n else fail .countTooLarge (after.since c)
  (n, after.move (after.rest.dropWhile Text.isWhite))

/-- The bounds in braces; the cursor stands on the opening brace and is left on the closing
one. -/
def bounds (brace : Cursor) : Except Flaw ((Nat × Option Nat) × Cursor) := do
  let unclosed (c : Cursor) : Except Flaw Unit :=
    if c.rest.isEmpty then fail .countUnclosed (c.since brace) else .ok ()
  let closed (c : Cursor) : Except Flaw Unit :=
    if c.rest.head? == some '\x7d' then .ok () else fail .countUnclosed (c.since brace)
  let c := brace.past 1
  unclosed c
  let (low, c) := count c
  unclosed c
  match c.rest with
  | ',' :: _ =>
    let c := c.past 1
    unclosed c
    let low ← low
    if c.rest.head? == some '\x7d' then pure ((low, none), c)
    else
      let (high, c) := count c
      let high ← high
      closed c
      pure ((low, some high), c)
  | _ =>
    let low ← low
    closed c
    pure ((low, some low), c)

/-- A question mark behind a repetition makes it lazy, which changes no match. -/
def lazyMark (c : Cursor) : Cursor :=
  match c.rest with
  | '?' :: rest => c.move rest
  | _ => c

/-- The last piece and those before it; there must be one, and it must not be a change of
flags. -/
def operand (c : Cursor) : List Piece → Except Flaw (Part Pattern × List Piece)
  | .repeatable p :: rest => .ok (p, rest)
  | _ => fail .nothingToRepeat c.here

/-- A repetition of the last piece: by a sign, or by bounds in braces. -/
def repetition (pieces : List Piece) (c : Cursor) : Except Flaw (List Piece × Cursor) := do
  let (p, before) ← operand c pieces
  let repeated (min : Nat) (max : Option Nat) (after : Cursor) : List Piece × Cursor :=
    (.repeatable (.level (p.value.repeated min max) p ⟨p.region.start, after.offset⟩) :: before,
      after)
  match c.rest with
  | '?' :: rest => pure (repeated 0 (some 1) (lazyMark (c.move rest)))
  | '*' :: rest => pure (repeated 0 none (lazyMark (c.move rest)))
  | '+' :: rest => pure (repeated 1 none (lazyMark (c.move rest)))
  | _ =>
    let ((min, max), closing) ← bounds c
    let after := lazyMark (closing.past 1)
    if max.all (min ≤ ·) then pure (repeated min max after)
    else fail .countReversed (after.since c)

/-! ## Flags and groups -/

def Flags.set (flags : Flags) (c : Char) (on : Bool) : Option Flags :=
  match c with
  | 'i' => some { flags with anyCase := on }
  | 'm' => some { flags with multiLine := on }
  | 's' => some { flags with dotAll := on }
  | 'U' => some flags
  | 'u' => some { flags with unicode := on }
  | 'R' => some { flags with returns := on }
  | 'x' => some { flags with verbose := on }
  | _ => none

/-- Flags up to a colon or a closing parenthesis: none twice, at most one hyphen and none at the
end. -/
def flagList : (fuel : Nat) → (seen : List (Char × Region)) → (on : Bool) → Cursor →
    Except Flaw (Unit × Cursor)
  | 0, _, _, c => fail .flagsCut c.here
  | fuel + 1, seen, on, c =>
    match c.rest with
    | [] => fail .flagsCut c.here
    | x :: rest =>
      let after := c.move rest
      let earlier := (seen.find? (·.1 == x)).map (·.2)
      if x == ':' || x == ')' then
        match seen with
        | ('-', region) :: _ => fail .negationDangling region
        | _ => .ok ((), c)
      else if x == '-' then
        if earlier.isSome then fail .negationTwice c.next earlier
        else flagList fuel ((x, c.next) :: seen) false after
      else
        match c.flags.set x on with
        | none => fail .flagUnknown c.next
        | some flags =>
          if earlier.isSome then fail .flagTwice c.next earlier
          else flagList fuel ((x, c.next) :: seen) on { after with flags }

/-- Characters of a group name; the first one must be a letter or an underscore. -/
def isNameChar (isFirst : Bool) (c : Char) : Bool :=
  if isFirst then c == '_' || Text.alphabetic.holds c
  else c == '_' || c == '.' || c == '[' || c == ']' || Text.isAlphanumeric c

/-- The characters of a group name up to its closing angle, where the cursor is left. -/
def nameChars (c : Cursor) : (isFirst : Bool) → List Char → Except Flaw (List Char × Cursor)
  | _, [] => fail .groupNameUnclosed (c.move []).here
  | isFirst, x :: rest =>
    if x == '>' then .ok ([], c.move (x :: rest))
    else if isNameChar isFirst x then
      (nameChars c false rest).map fun (name, c) => (x :: name, c)
    else fail .groupNameInvalid (c.move (x :: rest)).next

/-- A group name and its closing angle; the name must not have been used before. -/
def groupName (c : Cursor) : Except Flaw Cursor := do
  let (name, closing) ← nameChars c true c.rest
  let text := String.ofList name
  let region := closing.since c
  if name.isEmpty then fail .groupNameEmpty c.here
  else
    match c.names.find? (·.1 == text) with
    | some (_, earlier) => fail .groupNameTwice region (some earlier)
    | none => pure { closing with
        rest := closing.rest.drop 1, names := (text, region) :: closing.names }

/-- What a parenthesis opens: a group, whose text can be asked for or not, or a change of flags. -/
inductive Opening where
  | group (captures : Bool) (c : Cursor)
  | flags (c : Cursor)

/-- What stands behind an opening parenthesis. Looking around is refused, and so are no flags at
all. -/
def opening (parenthesis : Cursor) : Except Flaw Opening :=
  let c := parenthesis.past 1
  let lookingAround (n : Nat) : Except Flaw Opening :=
    fail .lookAround ((c.past n).since parenthesis)
  match c.rest with
  | '?' :: '=' :: _ => lookingAround 2
  | '?' :: '!' :: _ => lookingAround 2
  | '?' :: '<' :: '=' :: _ => lookingAround 3
  | '?' :: '<' :: '!' :: _ => lookingAround 3
  | '?' :: 'P' :: '<' :: rest => (groupName (c.move rest)).map (.group true)
  | '?' :: '<' :: rest => (groupName (c.move rest)).map (.group true)
  | '?' :: rest => do
    if rest.isEmpty then fail .groupUnclosed parenthesis.next
    else
      let inside := c.move rest
      let ((), closing) ← flagList (rest.length + 1) [] true inside
      let after := closing.move (closing.rest.drop 1)
      if closing.rest.head? == some ':' then pure (.group false after)
      else if closing.rest.length == rest.length then fail .nothingToRepeat c.here
      else pure (.flags after)
  | _ => .ok (.group true c)

/-! ## Patterns -/

def literal (flags : Flags) (c : Char) : Pattern :=
  let own := Text.CodeRanges.ofChars [c]
  .char (if flags.anyCase then
    if flags.unicode then .ofChars (Text.caseVariants c) else own.asciiAnyCase
  else own)

/-- The full stop: any character, line ends excepted unless the flags say otherwise. -/
def dot (flags : Flags) : Pattern :=
  if flags.dotAll then .char (Text.CodeRanges.complement [])
  else if flags.returns then .char (Text.CodeRanges.complement (.ofChars ['\n', '\r']))
  else .char (Text.CodeRanges.complement (.ofChars ['\n']))

/-- The circumflex. -/
def atStart (flags : Flags) : Pattern :=
  .anchor (if flags.multiLine then if flags.returns then .returnLineStart else .lineStart
    else .textStart)

/-- The dollar sign. -/
def atEnd (flags : Flags) : Pattern :=
  .anchor (if flags.multiLine then if flags.returns then .returnLineEnd else .lineEnd
    else .textEnd)

/-- An escape, a character with a meaning of its own, or one that stands for itself. -/
def primitive (c : Cursor) : Except Flaw (Part Pattern × Cursor) := do
  let (value, after) ← match c.rest with
    | '\\' :: _ => (escape c).map fun (e, after) =>
      (match e with
        | .literal x => literal c.flags x
        | .set s => .char s
        | .anchor a => .anchor a, after)
    | '.' :: rest =>
      .ok (dot c.flags, (c.move rest).objectsIf (!c.flags.unicode) .partsOfCharacters c.next)
    | '^' :: rest => .ok (atStart c.flags, c.move rest)
    | '$' :: rest => .ok (atEnd c.flags, c.move rest)
    | x :: rest => .ok (literal c.flags x, c.move rest)
    | [] => .ok (.nothing, c)
  pure ({ value, region := after.since c }, after)

/-- Alternatives, the last one first, as one part; the first one began at a cursor. -/
def alternatives (branches : List (Part Pattern)) (start c : Cursor) : Part Pattern :=
  let value := match branches with
    | [] => .nothing
    | last :: before => before.foldl (fun p branch => .alt branch.value p) last.value
  .joined value branches.reverse (c.since start)

mutual

/-- Alternatives up to the end of the text or of the group, collected in reverse. -/
def branches : (fuel : Nat) → List (Part Pattern) → Cursor →
    Except Flaw (List (Part Pattern) × Cursor)
  | 0, _, c => fail .nestedTooDeep c.here
  | fuel + 1, before, c => do
    let (p, after) ← sequence fuel c [] c
    match after.rest with
    | '|' :: rest => branches fuel (p :: before) (after.move rest)
    | _ => pure (p :: before, after)

/-- Pieces up to the end of an alternative, collected in reverse. -/
def sequence : (fuel : Nat) → (start : Cursor) → List Piece → Cursor →
    Except Flaw (Part Pattern × Cursor)
  | 0, _, _, c => fail .nestedTooDeep c.here
  | fuel + 1, start, pieces, c => do
    let c := c.skip
    match c.rest with
    | [] => pure (Piece.sequence pieces (c.since start), c)
    | x :: _ =>
      if x == ')' || x == '|' then pure (Piece.sequence pieces (c.since start), c)
      else if x == '?' || x == '*' || x == '+' || x == '\x7b' then
        let (pieces, after) ← repetition pieces c
        sequence fuel start pieces after
      else if x == '(' then
        match ← opening c with
        | .flags after => sequence fuel start (.flags (after.since c) :: pieces) after
        | .group captures inside =>
          let (inner, closing) ← branches fuel [] inside
          match closing.rest with
          | ')' :: rest =>
            let after := { closing with rest, flags := c.flags }
            let part := alternatives inner inside closing
            let value := if captures then .group part.value else part.value
            sequence fuel start (.repeatable (.level value part (after.since c)) :: pieces) after
          | _ => fail .groupUnclosed c.next
      else if x == '[' then
        let (opening, first, opened) ← OpenSet.read c
        let (s, after) ← setMembers fuel opening first opened
        sequence fuel start (.repeatable { s with value := .char s.value } :: pieces) after
      else
        let (p, after) ← primitive c
        sequence fuel start (.repeatable p :: pieces) after

end

/-- The pattern a text writes, or the first flaw in it: of its form, of its depth, and last of the
meaning of its parts. -/
def read (s : String) : Except Flaw Pattern := do
  let start := Cursor.start s
  let (parts, c) ← branches (2 * s.length + 2) [] start
  if !c.rest.isEmpty then fail .groupUnopened c.next
  else
    let p := alternatives parts start c
    match p.nest.deeper? deepest, c.misfit with
    | some region, _ => fail .nestedTooDeep region
    | none, some flaw => .error flaw
    | none, none => pure p.value

end ShadowTraffic.Pattern
