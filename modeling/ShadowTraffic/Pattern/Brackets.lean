import ShadowTraffic.Pattern.Escape

/-! # Sets in brackets

Members are characters, ranges, classes by name and sets inside sets; operators combine what
stands before them with what follows. Where case is ignored, a set takes the variants of its
members before it is complemented. Where there is no Unicode, members are of ASCII, and no set can
be complemented, since its complement would hold parts of characters.
-/

namespace ShadowTraffic.Pattern

/-- ASCII classes by name. -/
def asciiClass? : String → Option Text.CodeRanges
  | "alnum" => some [(0x30, 0x39), (0x41, 0x5A), (0x61, 0x7A)]
  | "alpha" => some [(0x41, 0x5A), (0x61, 0x7A)]
  | "ascii" => some [(0, 0x7F)]
  | "blank" => some [(9, 9), (0x20, 0x20)]
  | "cntrl" => some [(0, 0x1F), (0x7F, 0x7F)]
  | "digit" => some [(0x30, 0x39)]
  | "graph" => some [(0x21, 0x7E)]
  | "lower" => some [(0x61, 0x7A)]
  | "print" => some [(0x20, 0x7E)]
  | "punct" => some [(0x21, 0x2F), (0x3A, 0x40), (0x5B, 0x60), (0x7B, 0x7E)]
  | "space" => some [(9, 13), (0x20, 0x20)]
  | "upper" => some [(0x41, 0x5A)]
  | "word" => some [(0x30, 0x39), (0x41, 0x5A), (0x5F, 0x5F), (0x61, 0x7A)]
  | "xdigit" => some [(0x30, 0x39), (0x41, 0x46), (0x61, 0x66)]
  | _ => none

/-- A set of characters that a part of a text writes. -/
abbrev SetPart := Part Text.CodeRanges

/-- A set under a circumflex, if it is negated, once it has taken its variants. -/
def negatedIf (negated : Bool) (s : Text.CodeRanges) (opening c : Cursor) :
    Text.CodeRanges × Cursor :=
  let s := c.flags.variants s
  if negated then
    (s.complement, c.objectsIf (!c.flags.unicode) .partsOfCharacters (c.since opening))
  else (s, c)

/-- A class such as `[:alpha:]`; the cursor stands on its bracket. -/
def asciiItem? (c : Cursor) : Option (SetPart × Cursor) :=
  match c.rest with
  | '[' :: ':' :: rest =>
    let (negated, rest) := match rest with
      | '^' :: rest => (true, rest)
      | rest => (false, rest)
    let name := rest.takeWhile (· != ':')
    match rest.drop name.length with
    | ':' :: ']' :: rest =>
      (asciiClass? (String.ofList name)).map fun ranges =>
        let (value, after) := negatedIf negated ranges c (c.move rest)
        ({ value, region := after.since c }, after)
    | _ => none
  | _ => none

/-- A member, and the part of the text that writes it. -/
structure Member where
  escape : Escape
  region : Region

namespace Member

/-- A member of a bracketed set; where there is no Unicode a character must be of ASCII. -/
def read (c : Cursor) : Except Flaw (Member × Cursor) := do
  let (escape, after) ← match c.rest with
    | '\\' :: _ => Pattern.escape c
    | x :: rest => .ok (.literal x, c.move rest)
    | [] => fail .setUnclosed c.here
  let region := after.since c
  match escape with
  | .literal x =>
    let isBeyond := !c.flags.unicode && 0x80 ≤ x.toNat
    pure (⟨escape, region⟩, after.objectsIf isBeyond .beyondAscii region)
  | _ => pure (⟨escape, region⟩, after)

/-- The set a member stands for; conditions on places stand for none. -/
def set (m : Member) : Except Flaw SetPart :=
  match m.escape with
  | .literal x => .ok { value := .ofChars [x], region := m.region }
  | .set value => .ok { value, region := m.region }
  | .anchor _ => fail .setEscape m.region

def bound (m : Member) : Except Flaw Char :=
  match m.escape with
  | .literal x => .ok x
  | _ => fail .setRangeEnd m.region

end Member

/-- One member or a range of characters. A hyphen before a closing bracket or before another
hyphen stands for itself or belongs to an operator. The set that is read was opened by `opened`. -/
def memberOrRange (opened : Region) (c : Cursor) : Except Flaw (SetPart × Cursor) := do
  let (first, after) ← Member.read c
  let after := after.skip
  match after.rest with
  | [] => fail .setUnclosed opened
  | '-' :: rest =>
    match ((after.move rest).skip).rest with
    | [] => fail .setUnclosed opened
    | ']' :: _ => pure (← first.set, after)
    | '-' :: _ => pure (← first.set, after)
    | _ =>
      let (last, after) ← Member.read (after.past 1)
      let region : Region := ⟨first.region.start, last.region.stop⟩
      let low ← first.bound
      let high ← last.bound
      if low ≤ high then pure ({ value := [(low.toNat, high.toNat)], region }, after)
      else fail .setRange region
  | _ => pure (← first.set, after)

inductive SetOperator where
  | both
  | without
  | either

/-- Two operands under an operator; where case is ignored both take their variants first. -/
def SetOperator.apply (op : SetOperator) (flags : Flags) (a b : Text.CodeRanges) :
    Text.CodeRanges :=
  let a := flags.variants a
  let b := flags.variants b
  match op with
  | .both => a.both b
  | .without => a.without b
  | .either => a.either b

def setOperator? : List Char → Option SetOperator
  | '&' :: '&' :: _ => some .both
  | '-' :: '-' :: _ => some .without
  | '~' :: '~' :: _ => some .either
  | _ => none

/-- What has been read of a bracketed set: a left operand that waits for its right one, and the
members since, in reverse. -/
structure SetSoFar where
  left : Option (SetPart × SetOperator) := none
  members : List SetPart := []

namespace SetSoFar

def add (s : SetSoFar) (part : SetPart) : SetSoFar :=
  { s with members := part :: s.members }

/-- The members together as one operand, at a place where nothing follows them. -/
def operand (s : SetSoFar) (here : Region) : SetPart :=
  let parts := s.members.reverse
  let union : Text.CodeRanges := parts.foldl (fun ranges part => .union ranges part.value) []
  let region := match parts.head?, s.members.head? with
    | some first, some last => ⟨first.region.start, last.region.stop⟩
    | _, _ => here
  .joined union parts region

def result (s : SetSoFar) (flags : Flags) (here : Region) : SetPart :=
  let right := s.operand here
  match s.left with
  | none => right
  | some (left, op) =>
    let region : Region := ⟨left.region.start, right.region.stop⟩
    ⟨op.apply flags left.value right.value, .level region (.beside left.nest right.nest), region⟩

end SetSoFar

/-- The opening of a bracketed set: its bracket, whether it is negated, and the part it takes. -/
structure OpenSet where
  bracket : Cursor
  negated : Bool
  region : Region

namespace OpenSet

/-- Hyphens that open a set stand for themselves. -/
def hyphens (bracket : Cursor) : (fuel : Nat) → Cursor → SetSoFar →
    Except Flaw (SetSoFar × Cursor)
  | 0, c, read => .ok (read, c)
  | fuel + 1, c, read =>
    match c.rest with
    | '-' :: _ =>
      let after := c.past 1
      if after.rest.isEmpty then fail .setUnclosed bracket.here
      else hyphens bracket fuel after (read.add { value := .ofChars ['-'], region := c.next })
    | _ => .ok (read, c)

/-- Reads an opening, with the members that only count as such in front; the cursor stands on the
bracket. -/
def read (bracket : Cursor) : Except Flaw (OpenSet × SetSoFar × Cursor) := do
  let unclosed (c : Cursor) : Except Flaw Unit :=
    if c.rest.isEmpty then fail .setUnclosed (c.since bracket) else .ok ()
  let c := bracket.past 1
  unclosed c
  let (negated, c) := match c.rest with
    | '^' :: _ => (true, c.past 1)
    | _ => (false, c)
  unclosed c
  let (first, c) ← hyphens bracket c.rest.length c {}
  match first.members, c.rest with
  | [], ']' :: _ =>
    let after := c.past 1
    unclosed after
    pure (⟨bracket, negated, after.since bracket⟩,
      first.add { value := .ofChars [']'], region := c.next }, after)
  | _, _ => pure (⟨bracket, negated, c.since bracket⟩, first, c)

def close (opening : OpenSet) (read : SetSoFar) (c : Cursor) : SetPart × Cursor :=
  let inside := read.result c.flags c.here
  let after := c.move (c.rest.drop 1)
  let (value, after) := negatedIf opening.negated inside.value opening.bracket after
  (.level value inside (after.since opening.bracket), after)

end OpenSet

/-- The members of a bracketed set up to its closing bracket, sets inside it included. -/
def setMembers : (fuel : Nat) → OpenSet → SetSoFar → Cursor → Except Flaw (SetPart × Cursor)
  | 0, _, _, c => fail .nestedTooDeep c.here
  | fuel + 1, opening, read, c =>
    let c := c.skip
    match c.rest with
    | [] => fail .setUnclosed opening.region
    | ']' :: _ => .ok (opening.close read c)
    | '[' :: _ =>
      match asciiItem? c with
      | some (part, after) => setMembers fuel opening (read.add part) after
      | none => do
        let (inner, first, opened) ← OpenSet.read c
        let (part, after) ← setMembers fuel inner first opened
        setMembers fuel opening (read.add part) after
    | rest =>
      match setOperator? rest with
      | some op =>
        let left := read.result c.flags c.here
        setMembers fuel opening { left := some (left, op) } (c.move (rest.drop 2))
      | none => do
        let (part, after) ← memberOrRange opening.region c
        setMembers fuel opening (read.add part) after

end ShadowTraffic.Pattern
