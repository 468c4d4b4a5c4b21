import ShadowTraffic.Number.Reading

/-! # Doubles by scaling

A quick way to read a decimal literal: its digits are one whole number of sixty-four bits, as many
of them as fit, which is then multiplied or divided by a power of ten. Each of these steps rounds,
so the result can miss the nearest double by a little. A result that would be infinite is refused.
-/

namespace ShadowTraffic.Number

/-- A whole number and a power of ten to scale it by. -/
structure Scaled where
  digits : Nat
  exponent : Int

namespace Scaled

/-- One digit more, unless the number would grow beyond sixty-four bits. -/
def push? (n : Nat) (c : Char) : Option Nat :=
  let more := n * 10 + (c.toNat - '0'.toNat)
  if more < Nat.pow 2 64 then some more else none

/-- Digits put behind a number, and those from the first on that does not fit. -/
def take (n : Nat) : List Char → Nat × List Char
  | [] => (n, [])
  | c :: rest =>
    match push? n c with
    | some more => take more rest
    | none => (n, c :: rest)

/-- The digits of a literal without its exponent. Digits before the point that do not fit still
count as places, those behind it do not. -/
def ofDigits (whole fraction : List Char) : Scaled :=
  let (n, left) := take 0 whole
  let (m, ignored) := take n fraction
  ⟨m, left.length - (fraction.length - ignored.length : Nat)⟩

def greatestPower : Nat := 308

def power (n : Nat) : Float :=
  Float.ofScientific 1 false n

/-- Scales a double. Small powers are divided by in several steps; four of them make any number
vanish. -/
def scale : (steps : Nat) → Float → Int → Option Float
  | 0, x, _ => some x
  | steps + 1, x, e =>
    if e.natAbs ≤ greatestPower then
      if e < 0 then some (x / power e.natAbs)
      else
        let y := x * power e.natAbs
        if y.isInf then none else some y
    else if x == 0.0 then some x
    else if e < 0 then scale steps (x / power greatestPower) (e + greatestPower)
    else none

end Scaled

/-- The double of a literal by scaling. An exponent beyond thirty-two bits makes a number infinite
or nothing. -/
def Literal.scaled? (l : Literal) : Option Float :=
  let s := Scaled.ofDigits l.whole l.fraction
  if l.exponent.natAbs < Nat.pow 2 31 then
    Scaled.scale 4 s.digits.toUInt64.toFloat (s.exponent + l.exponent)
  else if s.digits == 0 || l.exponent < 0 then some 0.0
  else none

end ShadowTraffic.Number
