import ShadowTraffic.Document
import ShadowTraffic.Number.Reading

/-! # What scalars of YAML are

A plain scalar is what it looks like: nothing, a truth value, a whole number that fits sixty-four
bits, another number, or else text. A quoted scalar is always text. Other numbers keep how they
are written, since as keys they stand for that.
-/

namespace ShadowTraffic.Yaml

inductive Scalar where
  | null
  | bool (b : Bool)
  | int (n : Int)
  | real (written : String)
  | text (s : String)
deriving DecidableEq

namespace Scalar

/-- The whole number a plain scalar writes: decimal, or in base sixteen or eight behind `0x` or
`0o`. -/
def integer? (cs : List Char) : Option Int :=
  let prefixed := match cs with
    | '0' :: 'x' :: digits => Number.integerIn? 16 digits
    | '0' :: 'o' :: digits => Number.integerIn? 8 digits
    | '+' :: digits => Number.integerIn? 10 digits
    | _ => none
  prefixed <|> Number.integerIn? 10 cs

/-- The words for infinity and for no number. They are numbers, and no double is read from them. -/
def isNumberWord (s : String) : Bool :=
  [".inf", ".Inf", ".INF", "+.inf", "+.Inf", "+.INF", "-.inf", "-.Inf", "-.INF", ".nan", ".NaN",
    ".NAN"].contains s

/-- Whether a plain scalar that is no whole number is another number. -/
def isReal (s : String) : Bool :=
  isNumberWord s || (s.toList.any Char.isDigit && (Number.float? s).isSome)

def ofPlain (s : String) : Scalar :=
  match s with
  | "" | "~" | "null" => null
  | "true" | "True" | "TRUE" => bool true
  | "false" | "False" | "FALSE" => bool false
  | s =>
    match integer? s.toList with
    | some n => int n
    | none => if isReal s then real s else text s

/-- The document a scalar is; there is none for a number no double is read from. -/
def document? : Scalar → Option Document
  | null => some .null
  | bool b => some (.bool b)
  | int n => some (.int n)
  | real s => (Number.float? s).map .real
  | text s => some (.text s)

/-- The text of a key; nothing is no key. -/
def key? : Scalar → Option String
  | null => none
  | bool b => some (if b then "true" else "false")
  | int n => some (toString n)
  | real s => some s
  | text s => some s

end Scalar

end ShadowTraffic.Yaml
