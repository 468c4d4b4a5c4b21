import ShadowTraffic.Pattern.Cursor

/-! # Escapes

What a backslash stands for together with what follows it: a character, a set of characters or a
condition on a place. Letters without a meaning and back references are refused.
-/

namespace ShadowTraffic.Pattern

/-- The characters that have a meaning of their own and may always be escaped. -/
def isMeta (c : Char) : Bool :=
  "\\.+*?()|[]\x7b\x7d^$#&-~".toList.contains c

/-- Characters that stand for themselves behind a backslash. -/
def isEscapable (c : Char) : Bool :=
  isMeta c || (c.toNat < 0x80 && !c.isAlphanum && c != '<' && c != '>')

inductive Escape where
  | literal (c : Char)
  | set (s : Text.CodeRanges)
  | anchor (a : Anchor)

/-- The set behind one of the letters `d`, `s` and `w`; without Unicode it is ASCII. -/
def namedSet? (unicode : Bool) (c : Char) : Option Text.CodeRanges :=
  match c with
  | 'd' => some (if unicode then Text.decimalDigits else [(0x30, 0x39)])
  | 's' => some (if unicode then Text.whiteSpace else [(9, 13), (0x20, 0x20)])
  | 'w' => some (if unicode then Text.wordParts else Text.asciiWordParts)
  | _ => none

/-- The set behind one of these letters or, as its complement, behind a capital. -/
def perLetter? (unicode : Bool) (c : Char) : Option Text.CodeRanges :=
  if c.isUpper then (namedSet? unicode c.toLower).map (·.complement) else namedSet? unicode c

/-- The character with a code point, if there is one. -/
def charOf? (n : Nat) : Option Char :=
  if n.isValidChar then some (Char.ofNat n) else none

/-- The character whose code point is written by digits in base sixteen. -/
def character (digits : List Char) (region : Region) : Except Flaw Char :=
  match (Number.natural? 16 digits).bind charOf? with
  | some c => .ok c
  | none => fail .escapeNoCharacter region

/-- `n` digits in base sixteen. -/
def hexDigits : (n : Nat) → Cursor → List Char → Except Flaw (List Char × Cursor)
  | 0, c, read => .ok (read.reverse, c)
  | n + 1, c, read =>
    match c.rest with
    | d :: _ =>
      if (Number.digitValue? d).isSome then hexDigits n (c.past 1) (d :: read)
      else fail .escapeDigit c.next
    | [] => fail .escapeCut c.here

/-- Digits in base sixteen up to a closing brace, where the cursor is left. -/
def braced (opening : Cursor) : (fuel : Nat) → Cursor → List Char →
    Except Flaw (List Char × Cursor)
  | 0, c, _ => fail .escapeCut (c.since opening)
  | fuel + 1, c, read =>
    match c.rest with
    | '\x7d' :: _ => .ok (read.reverse, c)
    | d :: _ =>
      if (Number.digitValue? d).isSome then braced opening fuel (c.past 1) (d :: read)
      else fail .escapeDigit c.next
    | [] => fail .escapeCut (c.since opening)

/-- A character by its code point: a fixed count of digits, or any count in braces. Where there is
no Unicode two digits name a byte, and one beyond ASCII is only a part of a character. -/
def codePoint (count : Nat) (backslash c : Cursor) : Except Flaw (Char × Cursor) :=
  match c.rest with
  | '\x7b' :: _ => do
    let (digits, closing) ← braced c (c.rest.length + 1) (c.past 1) []
    let after := closing.past 1
    if digits.isEmpty then fail .escapeEmpty (after.since c)
    else pure (← character digits ⟨c.offset + 1, closing.offset⟩, after)
  | _ => do
    let (digits, after) ← hexDigits count c []
    let x ← character digits (after.since c)
    let isByte := !c.flags.unicode && count == 2 && 0x80 ≤ x.toNat
    pure (x, after.objectsIf isByte .partsOfCharacters (after.since backslash))

/-- The condition a name in braces asks for behind `\b`. -/
def wordEdge? : String → Option WordEdge
  | "start" => some .atStart
  | "end" => some .atStop
  | "start-half" => some .startHalf
  | "end-half" => some .stopHalf
  | _ => none

def namesEdge (c : Char) : Bool :=
  c.isAlpha || c == '-'

def edgeName : (fuel : Nat) → Cursor → List Char → List Char × Cursor
  | 0, c, read => (read.reverse, c)
  | fuel + 1, c, read =>
    match c.rest with
    | x :: _ => if namesEdge x then edgeName fuel (c.past 1) (x :: read) else (read.reverse, c)
    | [] => (read.reverse, c)

/-- Behind `\b`: a name in braces, or nothing that belongs to it. A brace that no letter follows
begins a repetition. -/
def edge (backslash c : Cursor) : Except Flaw (WordEdge × Cursor) :=
  match c.rest with
  | '\x7b' :: _ =>
    let inside := c.past 1
    match inside.rest with
    | [] => fail .edgeCut (inside.since backslash)
    | x :: _ =>
      if namesEdge x then
        let (name, closing) := edgeName inside.rest.length inside []
        match closing.rest with
        | '\x7d' :: rest =>
          match wordEdge? (String.ofList name) with
          | some a => .ok (a, closing.move rest)
          | none => fail .edgeUnknown (closing.since inside)
        | _ => fail .edgeUnclosed (closing.since c)
      else .ok (.atEdge, c)
  | _ => .ok (.atEdge, c)

/-- Letters that stand for controls. -/
def control? : Char → Option Char
  | 'a' => some '\x07'
  | 'f' => some '\x0c'
  | 't' => some '\t'
  | 'n' => some '\n'
  | 'r' => some '\r'
  | 'v' => some '\x0b'
  | _ => none

/-- Letters and angles that stand for conditions. -/
def condition? (unicode : Bool) : Char → Option Anchor
  | 'A' => some .textStart
  | 'z' => some .textEnd
  | 'B' => some (.word .offEdge !unicode)
  | '<' => some (.word .atStart !unicode)
  | '>' => some (.word .atStop !unicode)
  | _ => none

/-- Letters that a code point follows, with its count of digits. -/
def digitCount? : Char → Option Nat
  | 'x' => some 2
  | 'u' => some 4
  | 'U' => some 8
  | _ => none

/-- An escape; the cursor stands on the backslash. -/
def escape (backslash : Cursor) : Except Flaw (Escape × Cursor) :=
  let c := backslash.move (backslash.rest.drop 1)
  match c.rest with
  | [] => fail .escapeCut (c.since backslash)
  | x :: rest =>
    let after := c.move rest
    let unicode := c.flags.unicode
    let region := after.since backslash
    if x.isDigit then fail .backReference region
    else if x == 'b' then
      (edge backslash after).map fun (e, c) => (.anchor (.word e !unicode), c)
    else
      match digitCount? x, perLetter? unicode x, control? x, condition? unicode x with
      | some count, _, _, _ =>
        (codePoint count backslash after.skip).map fun (y, c) => (.literal y, c)
      | none, some s, _, _ =>
        .ok (.set s, after.objectsIf (!unicode && x.isUpper) .partsOfCharacters region)
      | none, none, some y, _ => .ok (.literal y, after)
      | none, none, none, some a => .ok (.anchor a, after)
      | none, none, none, none =>
        if isEscapable x then .ok (.literal x, after) else fail .escapeUnknown region

end ShadowTraffic.Pattern
