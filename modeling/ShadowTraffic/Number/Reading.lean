/-! # Numbers in text

Whole numbers are read when they fit sixty-four bits with a sign. Other decimal literals are read
as the nearest double; the words for infinity and for no number are literals too.
-/

namespace ShadowTraffic.Number

/-- The value of a digit in bases up to sixteen. -/
def digitValue? (c : Char) : Option Nat :=
  if c.isDigit then some (c.toNat - '0'.toNat)
  else if 'a' ≤ c ∧ c ≤ 'f' then some (c.toNat - 'a'.toNat + 10)
  else if 'A' ≤ c ∧ c ≤ 'F' then some (c.toNat - 'A'.toNat + 10)
  else none

/-- The number that digits write in a base; at least one digit, and digits only. -/
def natural? (base : Nat) (cs : List Char) : Option Nat :=
  if cs.isEmpty then none
  else cs.foldlM (fun n c => do
    let d ← digitValue? c
    if d < base then pure (n * base + d) else none) 0

/-- Whether a whole number fits sixty-four bits with a sign. -/
def fits64 (n : Int) : Bool :=
  -Int.ofNat (Nat.pow 2 63) ≤ n && n < Int.ofNat (Nat.pow 2 63)

/-- A whole number with an optional sign, in a base. -/
def integerIn? (base : Nat) (cs : List Char) : Option Int := do
  let n ← match cs with
    | '-' :: digits => (natural? base digits).map (fun n => -(n : Int))
    | '+' :: digits => (natural? base digits).map Int.ofNat
    | digits => (natural? base digits).map Int.ofNat
  if fits64 n then pure n else none

/-- A decimal whole number with an optional sign. -/
def integer? (s : String) : Option Int :=
  integerIn? 10 s.toList

/-- The double nearest to `n * 10 ^ e`. Exponents beyond the range of doubles are decided without
computing the power. -/
def nearest (n : Nat) (e : Int) : Float :=
  if n = 0 then 0.0
  else
    let size := ((Nat.toDigits 10 n).length : Int) + e
    if size > 400 then 1.0 / 0.0
    else if size < -400 then 0.0
    else if e ≥ 0 then Float.ofScientific n false e.toNat
    else Float.ofScientific n true (-e).toNat

/-- The digits of a decimal literal: those before the point, those behind it, and the exponent. -/
structure Literal where
  whole : List Char
  fraction : List Char
  exponent : Int

def Literal.value (l : Literal) : Float :=
  nearest ((natural? 10 (l.whole ++ l.fraction)).getD 0) (l.exponent - l.fraction.length)

/-- An exponent behind its letter: an optional sign and digits. -/
def exponent? (cs : List Char) : Option Int :=
  match cs with
  | '-' :: digits => (natural? 10 digits).map (fun n => -(n : Int))
  | '+' :: digits => (natural? 10 digits).map Int.ofNat
  | digits => (natural? 10 digits).map Int.ofNat

/-- An unsigned literal: digits on at least one side of an optional point, then an optional
exponent. -/
def literal? (cs : List Char) : Option Literal := do
  let whole := cs.takeWhile Char.isDigit
  let rest := cs.dropWhile Char.isDigit
  let (fraction, rest) := match rest with
    | '.' :: more => (more.takeWhile Char.isDigit, more.dropWhile Char.isDigit)
    | rest => ([], rest)
  if whole.isEmpty && fraction.isEmpty then none
  else match rest with
    | [] => pure ⟨whole, fraction, 0⟩
    | c :: rest =>
      if c == 'e' || c == 'E' then do pure ⟨whole, fraction, ← exponent? rest⟩ else none

/-- A magnitude: a literal, or a word in any ASCII case. -/
def magnitude? (cs : List Char) : Option Float :=
  match String.ofList (cs.map Char.toLower) with
  | "inf" | "infinity" => some (1.0 / 0.0)
  | "nan" => some (0.0 / 0.0)
  | _ => (literal? cs).map Literal.value

/-- A double with an optional sign. -/
def float? (s : String) : Option Float :=
  match s.toList with
  | '-' :: cs => (magnitude? cs).map (fun x => -x)
  | '+' :: cs => magnitude? cs
  | cs => magnitude? cs

end ShadowTraffic.Number
