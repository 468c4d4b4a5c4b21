/-! # Sets of characters as ranges of code points

A table of a character property lists closed ranges. Membership scans the list, so a fact about
a table is a fact about a list of pairs. Sets are joined, complemented and intersected on lists in
ascending order whose ranges neither meet nor touch.
-/

namespace ShadowTraffic.Text

/-- Closed ranges of code points, in ascending order where a table is meant. -/
abbrev CodeRanges := List (Nat × Nat)

namespace CodeRanges

def holds (ranges : CodeRanges) (c : Char) : Bool :=
  ranges.any fun (low, high) => low ≤ c.toNat && c.toNat ≤ high

theorem holds_iff {ranges : CodeRanges} {c : Char} :
    ranges.holds c = true ↔ ∃ r ∈ ranges, r.1 ≤ c.toNat ∧ c.toNat ≤ r.2 := by
  simp [CodeRanges.holds]

/-- One more range; it takes in those that it meets or touches. -/
def insert (low high : Nat) : CodeRanges → CodeRanges
  | [] => [(low, high)]
  | (l, h) :: rest =>
    if high + 1 < l then (low, high) :: (l, h) :: rest
    else if h + 1 < low then (l, h) :: insert low high rest
    else insert (min low l) (max high h) rest

/-- The characters of both sets. -/
def union (a b : CodeRanges) : CodeRanges :=
  b.foldl (fun ranges r => ranges.insert r.1 r.2) a

def ofChars (cs : List Char) : CodeRanges :=
  cs.foldl (fun ranges c => ranges.insert c.toNat c.toNat) []

def lastCode : Nat := 0x10FFFF

/-- What lies between ascending ranges, from a code point on. -/
def gaps (start : Nat) : CodeRanges → CodeRanges
  | [] => if start ≤ lastCode then [(start, lastCode)] else []
  | (low, high) :: rest =>
    if start < low then (start, low - 1) :: gaps (high + 1) rest else gaps (high + 1) rest

def complement (a : CodeRanges) : CodeRanges :=
  gaps 0 a

/-- The characters that two sets share. -/
def both (a b : CodeRanges) : CodeRanges :=
  (a.complement.union b.complement).complement

def without (a b : CodeRanges) : CodeRanges :=
  a.both b.complement

/-- The characters of exactly one of two sets. -/
def either (a b : CodeRanges) : CodeRanges :=
  (a.union b).without (a.both b)

/-- Whether all characters are in ASCII. -/
def isAscii (a : CodeRanges) : Bool :=
  a.all fun r => r.2 < 0x80

end CodeRanges

end ShadowTraffic.Text
