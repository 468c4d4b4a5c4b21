/-! # The fewest digits that read back

A double is `mantissa * 2 ^ exponent`. The numbers that round to it form an interval around it,
ends included when the mantissa is even. Among the decimals with one digit, then two, and so on
up to seventeen, the first grid with a point in the interval gives the digits; of two such points
the nearer one is taken. All arithmetic is on natural numbers.
-/

namespace ShadowTraffic.Number

/-- A nonnegative decimal `digits * 10 ^ exponent`. -/
structure Decimal where
  digits : Nat
  exponent : Int
deriving DecidableEq, Repr

/-- A quotient of two naturals, the divisor positive. -/
structure Ratio where
  num : Nat
  den : Nat

/-- The magnitude of a finite double: its mantissa, its binary exponent, and whether the gap below
it is half the gap above. -/
structure Binary where
  mantissa : Nat
  exponent : Int
  narrowBelow : Bool

/-- The magnitude held in the bits of a finite double. -/
def Binary.ofBits (bits : UInt64) : Binary :=
  let fraction := bits.toNat % Nat.pow 2 52
  let biased := bits.toNat / Nat.pow 2 52 % Nat.pow 2 11
  if biased = 0 then ⟨fraction, -1074, false⟩
  else ⟨Nat.pow 2 52 + fraction, Int.ofNat biased - 1075, fraction == 0 && decide (biased > 1)⟩

/-- `n * 2 ^ e` as a quotient. -/
def scaled (n : Nat) (e : Int) : Ratio :=
  if e ≥ 0 then ⟨n * Nat.pow 2 e.toNat, 1⟩ else ⟨n, Nat.pow 2 (-e).toNat⟩

/-- How often a quotient below one must be multiplied by ten to reach one, searched for `fuel`
places. -/
def placesBelowOne (num den : Nat) : Nat → Nat
  | 0 => 0
  | fuel + 1 => if num ≥ den then 0 else placesBelowOne (num * 10) den fuel + 1

/-- The exponent of the leading decimal digit of a positive quotient. -/
def leadingExponent (r : Ratio) : Int :=
  if r.num ≥ r.den then ((Nat.toDigits 10 (r.num / r.den)).length : Int) - 1
  else -(placesBelowOne r.num r.den 400 : Int)

/-- The points of the grid `10 ^ k` next to `value`, the nearer first. -/
def neighbours (value : Ratio) (k : Int) : List Nat :=
  let num := if k ≥ 0 then value.num else value.num * Nat.pow 10 (-k).toNat
  let den := if k ≥ 0 then value.den * Nat.pow 10 k.toNat else value.den
  let low := num / den
  let rest := num % den
  if 2 * rest < den || (2 * rest == den && low % 2 == 0) then [low, low + 1] else [low + 1, low]

/-- Whether `n * 10 ^ k` rounds to the double: four times the distance, in units of the last
binary place, is measured against the two ends. -/
def Binary.covers (b : Binary) (n : Nat) (k : Int) : Bool :=
  let low := scaled (4 * b.mantissa - (if b.narrowBelow then 1 else 2)) (b.exponent - 2)
  let high := scaled (4 * b.mantissa + 2) (b.exponent - 2)
  let num := if k ≥ 0 then n * Nat.pow 10 k.toNat else n
  let den := if k ≥ 0 then 1 else Nat.pow 10 (-k).toNat
  let below := low.num * den
  let here := num * low.den
  let above := high.num * den
  let here' := num * high.den
  if b.mantissa % 2 == 0 then below ≤ here && here' ≤ above else below < here && here' < above

/-- The first grid, from `count` digits on, with a point that rounds to the double. -/
def Binary.search (b : Binary) (value : Ratio) (leading : Int) : (fuel count : Nat) → Decimal
  | 0, count => ⟨(neighbours value (leading - count + 1)).headD 0, leading - count + 1⟩
  | fuel + 1, count =>
    let k := leading - count + 1
    match (neighbours value k).find? (b.covers · k) with
    | some n => ⟨n, k⟩
    | none => b.search value leading fuel (count + 1)

/-- A decimal without zeros at its end. -/
def Decimal.trimmed (d : Decimal) : Nat → Decimal
  | 0 => d
  | fuel + 1 =>
    if d.digits != 0 && d.digits % 10 == 0 then
      Decimal.trimmed ⟨d.digits / 10, d.exponent + 1⟩ fuel
    else d

/-- The shortest decimal that reads back as the magnitude of a finite double. -/
def shortest (bits : UInt64) : Decimal :=
  let b := Binary.ofBits bits
  if b.mantissa = 0 then ⟨0, 0⟩
  else
    let value := scaled b.mantissa b.exponent
    (b.search value (leadingExponent value) 16 1).trimmed 20

/-- A decimal written positionally: no exponent, and a point only before a fraction. -/
def Decimal.text (d : Decimal) : String :=
  let digits := Nat.toDigits 10 d.digits
  if d.exponent ≥ 0 then String.ofList (digits ++ List.replicate d.exponent.toNat '0')
  else
    let places := (-d.exponent).toNat
    let padded := List.replicate (places + 1 - digits.length) '0' ++ digits
    let whole := padded.take (padded.length - places)
    String.ofList (whole ++ '.' :: padded.drop (padded.length - places))

/-- The text of a double: the fewest digits that read back, positional at every size. -/
def floatText (x : Float) : String :=
  if x.isNaN then "NaN"
  else
    let sign := if x.toBits ≥ 0x8000000000000000 then "-" else ""
    if x.isInf then sign ++ "inf"
    else sign ++ (shortest (x.toBits &&& 0x7FFFFFFFFFFFFFFF)).text

end ShadowTraffic.Number
