import ShadowTraffic.Pattern.Match
import ShadowTraffic.Pattern.Fault

/-! # How deep a pattern is nested

Groups, repetitions, bracketed sets, sequences and alternatives may lie in each other 250 times. A
nest keeps of a written pattern just these parts and where they stand, so that the first part that
lies too deep can be named.
-/

namespace ShadowTraffic.Pattern

/-- The parts of a pattern that count as a level, one inside another or side by side. -/
inductive Nest where
  | flat
  | level (region : Region) (inner : Nest)
  | beside (a b : Nest)

namespace Nest

/-- The first part, outer ones before inner ones, that lies inside `n` others and more. -/
def deeper? : Nest → (n : Nat) → Option Region
  | flat, _ => none
  | level region _, 0 => some region
  | level _ inner, n + 1 => inner.deeper? n
  | beside a b, n => (a.deeper? n).or (b.deeper? n)

/-- Side by side, in order. -/
def ofList : List Nest → Nest
  | [] => flat
  | [a] => a
  | a :: rest => beside a (ofList rest)

def depth : Nest → Nat
  | flat => 0
  | level _ inner => inner.depth + 1
  | beside a b => max a.depth b.depth

theorem deeper?_eq_none_iff {a : Nest} {n : Nat} : a.deeper? n = none ↔ a.depth ≤ n := by
  induction a generalizing n with
  | flat => simp [deeper?, depth]
  | level region inner ih =>
    cases n with
    | zero => simp [deeper?, depth]
    | succ n => simp [deeper?, depth, ih]
  | beside a b iha ihb => simp [deeper?, depth, iha, ihb, Nat.max_le]

end Nest

/-- How many levels may lie in each other. -/
def deepest : Nat := 250

/-- What a part of a text writes: a pattern, or a set of characters inside brackets. -/
structure Part (α : Type) where
  value : α
  nest : Nest := .flat
  region : Region

namespace Part

/-- A part that counts as a level of its own. -/
def level {α β : Type} (value : α) (inner : Part β) (region : Region) : Part α :=
  ⟨value, .level region inner.nest, region⟩

/-- Parts side by side: none at all, a single one as it stands, or a level of their own. -/
def joined {α : Type} (value : α) (parts : List (Part α)) (region : Region) : Part α :=
  match parts with
  | [] => ⟨value, .flat, region⟩
  | [part] => { part with value }
  | parts => ⟨value, .level region (.ofList (parts.map nest)), region⟩

end Part

end ShadowTraffic.Pattern
