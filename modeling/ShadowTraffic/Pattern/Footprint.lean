import ShadowTraffic.Pattern.Grammar

/-! # How much room a pattern takes

A pattern is searched for by two automata over the bytes of UTF-8, one that reads forwards and one
that reads backwards, and both must fit into a fixed room. Every repetition with a bound is written
out as copies, so a short text can ask for a large automaton. A state takes 32 bytes, a transition
of a state with several ones 8, and an alternative of a branching state 4.
-/

namespace ShadowTraffic

namespace Text.CodeRanges

abbrev ByteRange := Nat × Nat

/-- The sequences of byte ranges that write a range of numbers by a leading digit and `n` digits
in base 64; `lead` and 0x80 are added to the digits. -/
def digitSequences (lead : Nat) : (n : Nat) → (low high : Nat) → List (List ByteRange)
  | 0, low, high => [[(lead + low, lead + high)]]
  | n + 1, low, high =>
    let unit := 64 ^ (n + 1)
    let (first, last) := (low / unit, high / unit)
    let under (digit low high : Nat) : List (List ByteRange) :=
      (digitSequences 0x80 n low high).map ((lead + digit, lead + digit) :: ·)
    if first == last then under first (low % unit) (high % unit)
    else
      let (front, first) := if low % unit == 0 then ([], first)
        else (under first (low % unit) (unit - 1), first + 1)
      let (back, stop) := if high % unit == unit - 1 then ([], last + 1)
        else (under last 0 (high % unit), last)
      let whole := if first < stop then
        [(lead + first, lead + stop - 1) :: List.replicate (n + 1) (0x80, 0xBF)] else []
      front ++ whole ++ back

/-- The numbers that UTF-8 writes with a leading byte and `n` more; surrogates are none. -/
def encodings : List (Nat × Nat × Nat × Nat) := [
  (0, 0, 0, 0x7F), (1, 0xC0, 0x80, 0x7FF), (2, 0xE0, 0x800, 0xD7FF), (2, 0xE0, 0xE000, 0xFFFF),
  (3, 0xF0, 0x10000, 0x10FFFF)]

/-- The sequences of byte ranges that write a set of characters, in ascending order. -/
def sequences (set : CodeRanges) : List (List ByteRange) :=
  set.flatMap fun (low, high) => encodings.flatMap fun (n, lead, least, greatest) =>
    let (low, high) := (max low least, min high greatest)
    if low ≤ high then digitSequences lead n low high else []

/-- Sequences by their first range; equal ones follow each other. -/
def byFirst : List (List ByteRange) → List (ByteRange × List (List ByteRange))
  | [] => []
  | [] :: rest => byFirst rest
  | (range :: tail) :: rest =>
    match byFirst rest with
    | (next, tails) :: groups =>
      if next == range then (next, tail :: tails) :: groups
      else (range, [tail]) :: (next, tails) :: groups
    | [] => [(range, [tail])]

/-- A state that reads one of several byte ranges and goes on to numbered states. -/
abbrev Branching := List (ByteRange × Nat)

/-- The number of the state from which some sequences can be read, among the states that there are
and those that have to be added. The last state, past all sequences, has the number 0. -/
def stateOf : (fuel : Nat) → List (List ByteRange) → List Branching → Nat × List Branching
  | 0, _, states => (0, states)
  | fuel + 1, sequences, states =>
    if sequences.all (·.isEmpty) then (0, states)
    else
      let (state, states) := (byFirst sequences).foldl (fun (state, states) (range, tails) =>
        let (next, states) := stateOf fuel tails states
        (state ++ [(range, next)], states)) (([] : Branching), states)
      match states.findIdx? (· == state) with
      | some i => (i + 1, states)
      | none => (states.length + 1, states ++ [state])

/-- How many different beginnings sequences have. -/
def beginnings : (fuel : Nat) → List (List ByteRange) → Nat
  | 0, _ => 0
  | fuel + 1, sequences =>
    (byFirst sequences).foldl (fun n (_, tails) => n + 1 + beginnings fuel tails) 0

/-- The bytes of a set's only character. -/
def soleBytes? (set : CodeRanges) : Option (List Nat) :=
  match set with
  | [(low, high)] =>
    if low == high then set.sequences.head?.map (·.map (·.1)) else none
  | _ => none

/-- The room for a set of characters. A single character is a chain of states, and a set in ASCII
one state. Otherwise states that go on alike are shared when reading forwards, and equal beginnings
when reading backwards. -/
def footprint (backward : Bool) (set : CodeRanges) : Nat :=
  match set.soleBytes? with
  | some bytes => 32 * bytes.length
  | none =>
    let sequences := set.sequences
    if set.isAscii then 64 + 8 * set.length
    else if backward then 64 + 4 * sequences.length + 32 * beginnings 4 sequences
    else (stateOf 5 sequences []).2.foldl (fun n state => n + 32 + 8 * state.length) 32

end Text.CodeRanges

namespace Pattern

/-- The bytes of a pattern that matches one text alone. -/
def literal? : Pattern → Option (List Nat)
  | char set => set.soleBytes?
  | seq a b => do pure ((← a.literal?) ++ (← b.literal?))
  | _ => none

/-- The set of a pattern that matches one of several characters. -/
def charSet? : Pattern → Option Text.CodeRanges
  | char set => if set.soleBytes?.isSome then none else some set
  | _ => none

/-- The single character of a pattern, as a set. -/
def soleChar? : Pattern → Option Text.CodeRanges
  | char set => if set.soleBytes?.isSome then some set else none
  | _ => none

def alternants : Pattern → List Pattern
  | alt a b => a.alternants ++ b.alternants
  | p => [p]

/-- Whether every match has at least one character. -/
def isLong : Pattern → Bool
  | nothing => false
  | char set => !List.isEmpty set
  | anchor _ => false
  | seq a b => a.isLong || b.isLong
  | alt a b => a.isLong && b.isLong
  | times a min _ => min != 0 && a.isLong
  | group a => a.isLong

/-- Words up to the next one that has ended, and what follows it. -/
def untilEnded : List (List Nat) → List (List Nat) × Option (List (List Nat))
  | [] => ([], none)
  | [] :: rest => ([], some rest)
  | word :: rest =>
    let (before, after) := untilEnded rest
    (word :: before, after)

/-- The words that begin with a byte, without it. -/
def behind (byte : Nat) (words : List (List Nat)) : List (List Nat) :=
  words.filterMap fun word => match word with
    | first :: rest => if first == byte then some rest else none
    | [] => none

/-- The room for words that share their beginnings. The word that ends somewhere parts those before
it from those after it. -/
def wordsFootprint : (fuel : Nat) → (parts : Nat) → List (List Nat) → Nat
  | 0, _, _ => 0
  | fuel + 1, parts, words =>
    let (before, after) := untilEnded words
    let bytes := (before.filterMap List.head?).eraseDups
    let inner := bytes.foldl (fun n byte =>
      let rest := behind byte before
      if rest.all (·.isEmpty) then n else n + wordsFootprint fuel 0 rest) 0
    let state := if bytes.isEmpty then 0 else if bytes.length == 1 then 32
      else 32 + 8 * bytes.length
    let parts := parts + if bytes.isEmpty then 0 else 1
    inner + state + match after with
      | none => 32 + 4 * parts
      | some rest => wordsFootprint fuel (parts + 1) rest

/-- The room for alternatives that are all words, all characters or all sets of characters. -/
def plainFootprint? (backward : Bool) (branches : List Pattern) : Option Nat :=
  let together (sets : List Text.CodeRanges) : Nat :=
    Text.CodeRanges.footprint backward (sets.foldl .union [])
  match branches.mapM soleChar?, branches.mapM charSet?, branches.mapM literal? with
  | some sets, _, _ => some (together sets)
  | _, some sets, _ => some (together sets)
  | _, _, some words =>
    let words := if backward then words.map List.reverse else words
    let size := words.foldl (fun n word => n + word.length + 1) 1
    some (32 + wordsFootprint size 0 words)
  | _, _, _ => none

/-- The room for a pattern; a branch of an alternative takes an entry more, and the alternative a
state at either end. Only reading forwards keeps note of groups. -/
def footprint (backward : Bool) : (isBranch : Bool) → Pattern → Nat
  | isBranch, alt a b =>
    match plainFootprint? backward (a.alternants ++ b.alternants) with
    | some n => if isBranch then n + 4 else n
    | none =>
      let n := a.footprint backward true + b.footprint backward true
      if isBranch then n else 64 + n
  | isBranch, p =>
    (if isBranch then 4 else 0) + match p with
    | nothing => 32
    | char set => Text.CodeRanges.footprint backward set
    | anchor _ => 32
    | seq a b => a.footprint backward false + b.footprint backward false
    | alt _ _ => 0
    | group a => a.footprint backward false + if backward then 0 else 64
    | times a min max =>
      let once := a.footprint backward false
      match min, max with
      | 0, some 1 => once + 72
      | 0, none => if a.isLong then once + 40 else once + 112
      | n, none => n * once + 40
      | n, some max =>
        if n == max then n * once
        else (if n == 0 then 32 else n * once) + 32 + (max - n) * (once + 40)

/-- Whether both automata have room, with the states around the pattern itself. -/
def fits (p : Pattern) : Bool :=
  208 + p.footprint false false ≤ largestFootprint &&
    144 + p.footprint true false ≤ largestFootprint

/-- The pattern a text writes, if it has no flaw and both automata have room. -/
def parse (s : String) : Except Fault Pattern :=
  match read s with
  | .error flaw => .error (.flawed flaw)
  | .ok p => if p.fits then .ok p else .error .tooLarge

end Pattern

end ShadowTraffic
