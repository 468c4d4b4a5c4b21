import ShadowTraffic.Document
import ShadowTraffic.Number.Reading

/-! # Values of TOML

Texts in their four forms, numbers with underscores between digits, truth values, and dates and
times, which are read as the text that writes them in full. A reader takes characters and leaves
the rest, or fails.
-/

namespace ShadowTraffic.Toml

/-- A reader takes characters and leaves the rest, or fails. -/
abbrev Reader (α : Type) := List Char → Option (α × List Char)

def isBlank (c : Char) : Bool :=
  c == ' ' || c == '\t'

/-- Characters that may stand in comments and texts as they are. -/
def isPlain (c : Char) : Bool :=
  c == '\t' || (c.toNat ≥ 0x20 && c.toNat != 0x7F)

def pastBlanks (cs : List Char) : List Char :=
  cs.dropWhile isBlank

/-- Past one line end, if there is one. -/
def newline? : List Char → Option (List Char)
  | '\n' :: rest => some rest
  | '\r' :: '\n' :: rest => some rest
  | _ => none

/-- Past a comment, if there is one; it must hold plain characters only. -/
def pastComment : List Char → List Char
  | '#' :: rest => rest.dropWhile isPlain
  | cs => cs

/-- Past blanks, comments and line ends. -/
def pastLines : (fuel : Nat) → List Char → List Char
  | 0, cs => cs
  | fuel + 1, cs =>
    let cs := pastComment (pastBlanks cs)
    match newline? cs with
    | some rest => pastLines fuel rest
    | none => cs

/-! ## Texts -/

def escape : Reader Char
  | 'b' :: rest => some ('\x08', rest)
  | 't' :: rest => some ('\t', rest)
  | 'n' :: rest => some ('\n', rest)
  | 'f' :: rest => some ('\x0c', rest)
  | 'r' :: rest => some ('\r', rest)
  | '"' :: rest => some ('"', rest)
  | '\\' :: rest => some ('\\', rest)
  | 'e' :: rest => some ('\x1b', rest)
  | 'x' :: rest => codePoint 2 rest
  | 'u' :: rest => codePoint 4 rest
  | 'U' :: rest => codePoint 8 rest
  | _ => none
where
  codePoint (count : Nat) : Reader Char := fun cs => do
    if cs.length < count then none
    else
      let n ← Number.natural? 16 (cs.take count)
      if n.isValidChar then some (Char.ofNat n, cs.drop count) else none

/-- A text on one line up to its closing quote, given what was read in reverse. Between double
quotes there are escapes. -/
def lineText (quote : Char) : (fuel : Nat) → List Char → Reader String
  | 0, _, _ => none
  | fuel + 1, read, cs =>
    match cs with
    | [] => none
    | c :: rest =>
      if c == quote then some (String.ofList read.reverse, rest)
      else if c == '\\' && quote == '"' then do
        let (c, rest) ← escape rest
        lineText quote fuel (c :: read) rest
      else if isPlain c then lineText quote fuel (c :: read) rest
      else none

def quotes (quote : Char) (cs : List Char) : Nat :=
  (cs.takeWhile (· == quote)).length

/-- Behind a backslash at the end of a line: past all blanks and line ends. -/
def pastGap : (fuel : Nat) → List Char → List Char
  | 0, cs => cs
  | fuel + 1, cs =>
    let cs := pastBlanks cs
    match newline? cs with
    | some rest => pastGap fuel rest
    | none => cs

/-- A text over several lines up to its three closing quotes, of which up to two more in front of
them belong to it. Line ends stay as they are. -/
def linesText (quote : Char) : (fuel : Nat) → List Char → Reader String
  | 0, _, _ => none
  | fuel + 1, read, cs =>
    match cs with
    | [] => none
    | c :: rest =>
      if c == quote then
        let n := quotes quote cs
        if n < 3 then linesText quote fuel (c :: read) rest
        else if n ≤ 5 then
          some (String.ofList (read.reverse ++ List.replicate (n - 3) quote), cs.drop n)
        else none
      else if c == '\\' && quote == '"' then
        match newline? (pastBlanks rest) with
        | some after => linesText quote fuel read (pastGap after.length.succ after)
        | none => do
          let (c, rest) ← escape rest
          linesText quote fuel (c :: read) rest
      else
        match newline? cs with
        | some after =>
          let lineEnd := cs.take (cs.length - after.length)
          linesText quote fuel (lineEnd.reverse ++ read) after
        | none => if isPlain c then linesText quote fuel (c :: read) rest else none

/-- A text in one of its four forms. A line end right behind three opening quotes is dropped. -/
def text : Reader String
  | '"' :: '"' :: '"' :: rest => several '"' rest
  | '\'' :: '\'' :: '\'' :: rest => several '\'' rest
  | '"' :: rest => lineText '"' (rest.length + 1) [] rest
  | '\'' :: rest => lineText '\'' (rest.length + 1) [] rest
  | _ => none
where
  several (quote : Char) : Reader String := fun cs =>
    linesText quote (cs.length + 1) [] ((newline? cs).getD cs)

/-! ## Numbers -/

/-- Digits in a base with single underscores between them. -/
def digits? (base : Nat) (cs : List Char) : Option (List Char) :=
  let isDigit (c : Char) := (Number.digitValue? c).any (· < base)
  let rec go : List Char → Option (List Char)
    | [] => none
    | [c] => if isDigit c then some [c] else none
    | c :: '_' :: rest => if isDigit c then (go rest).map (c :: ·) else none
    | c :: rest => if isDigit c then (go rest).map (c :: ·) else none
  go cs

/-- The digits of a whole part: no zero in front of others. -/
def wholeDigits? (cs : List Char) : Option (List Char) := do
  let digits ← digits? 10 cs
  match digits with
  | '0' :: _ :: _ => none
  | digits => pure digits

/-- A whole number that fits sixty-four bits: decimal with a sign, or in another base without
one. -/
def integer? (word : List Char) : Option Int := do
  let n ← match word with
    | '0' :: 'x' :: rest => (digits? 16 rest).bind (Number.integerIn? 16)
    | '0' :: 'o' :: rest => (digits? 8 rest).bind (Number.integerIn? 8)
    | '0' :: 'b' :: rest => (digits? 2 rest).bind (Number.integerIn? 2)
    | '-' :: rest => (wholeDigits? rest).bind fun ds => Number.integerIn? 10 ('-' :: ds)
    | '+' :: rest => (wholeDigits? rest).bind (Number.integerIn? 10)
    | rest => (wholeDigits? rest).bind (Number.integerIn? 10)
  pure n

def exponent? : List Char → Option Int
  | '-' :: rest => (digits? 10 rest).bind fun ds => Number.exponent? ('-' :: ds)
  | '+' :: rest => (digits? 10 rest).bind Number.exponent?
  | rest => (digits? 10 rest).bind Number.exponent?

/-- A fraction without a sign: a point with digits on both sides, an exponent, or both; or a
word. -/
def magnitude? (word : List Char) : Option Float :=
  if word == "inf".toList then some (1.0 / 0.0)
  else if word == "nan".toList then some (0.0 / 0.0)
  else do
    let isMark (c : Char) := c == '.' || c == 'e' || c == 'E'
    let whole ← wholeDigits? (word.takeWhile (!isMark ·))
    let rest := word.dropWhile (!isMark ·)
    let (fraction, rest) ← match rest with
      | '.' :: more => do
        let isExponent (c : Char) := c == 'e' || c == 'E'
        pure (← digits? 10 (more.takeWhile (!isExponent ·)), more.dropWhile (!isExponent ·))
      | rest => pure ([], rest)
    let exponent ← match rest with
      | [] => if fraction.isEmpty then none else pure 0
      | _ :: digits => exponent? digits
    let x := (Number.Literal.mk whole fraction exponent).value
    if x.isInf then none else pure x

/-- A fraction with an optional sign. -/
def real? : List Char → Option Float
  | '-' :: rest => (magnitude? rest).map (fun x => -x)
  | '+' :: rest => magnitude? rest
  | rest => magnitude? rest

/-! ## Dates and times -/

def twoDigits (low high : Nat) : Reader (List Char) := fun cs => do
  let ds := cs.take 2
  let n ← if ds.length == 2 && ds.all Char.isDigit then Number.natural? 10 ds else none
  if low ≤ n && n ≤ high then pure (ds, cs.drop 2) else none

def expect (c : Char) : Reader Unit
  | d :: rest => if c == d then some ((), rest) else none
  | [] => none

def daysOf (year month : Nat) : Nat :=
  if month == 2 then
    if year % 4 == 0 && (year % 100 != 0 || year % 400 == 0) then 29 else 28
  else if [4, 6, 9, 11].contains month then 30
  else 31

/-- Year, month and day. -/
def date : Reader (List Char) := fun cs => do
  let year := cs.take 4
  if !(year.length == 4 && year.all Char.isDigit) then none
  let (_, rest) ← expect '-' (cs.drop 4)
  let (month, rest) ← twoDigits 1 12 rest
  let (_, rest) ← expect '-' rest
  let (day, rest) ← twoDigits 1
    (daysOf (← Number.natural? 10 year) (← Number.natural? 10 month)) rest
  pure (year ++ '-' :: month ++ '-' :: day, rest)

/-- The digits of a fraction that count: up to nine, without zeros at their end but never none. -/
def fraction (digits : List Char) : List Char :=
  let kept := ((digits.take 9).reverse.dropWhile (· == '0')).reverse
  if kept.isEmpty then ['0'] else kept

/-- Hours and minutes, then seconds if they are given, and a fraction of these. -/
def time : Reader (List Char) := fun cs => do
  let (hours, rest) ← twoDigits 0 23 cs
  let (_, rest) ← expect ':' rest
  let (minutes, rest) ← twoDigits 0 59 rest
  let whole := hours ++ ':' :: minutes
  match rest with
  | ':' :: rest =>
    let (seconds, rest) ← twoDigits 0 60 rest
    let whole := whole ++ ':' :: seconds
    match rest with
    | '.' :: more =>
      let ds := more.takeWhile Char.isDigit
      if ds.isEmpty then none else pure (whole ++ '.' :: fraction ds, more.drop ds.length)
    | rest => pure (whole, rest)
  | rest => pure (whole, rest)

/-- The distance from universal time, if it is given; none at all is told as one forward. -/
def offset : Reader (List Char)
  | 'Z' :: rest | 'z' :: rest => some (['Z'], rest)
  | sign :: rest =>
    if sign == '+' || sign == '-' then do
      let (hours, rest) ← twoDigits 0 23 rest
      let (_, rest) ← expect ':' rest
      let (minutes, rest) ← twoDigits 0 59 rest
      let distance := hours ++ ':' :: minutes
      pure ((if distance == "00:00".toList then '+' else sign) :: distance, rest)
    else some ([], sign :: rest)
  | [] => some ([], [])

/-- A date, a time, or both with an optional offset, as the text that writes it in full. -/
def moment : Reader String := fun cs =>
  match date cs with
  | some (d, rest) =>
    match rest with
    | sep :: more =>
      let separated := sep == 'T' || sep == 't' || (sep == ' ' && (more.head?.any Char.isDigit))
      if separated then do
        let (t, rest) ← time more
        let (o, rest) ← offset rest
        pure (String.ofList (d ++ 'T' :: t ++ o), rest)
      else some (String.ofList d, rest)
    | [] => some (String.ofList d, [])
  | none => (time cs).map fun (t, rest) => (String.ofList t, rest)

def isWordChar (c : Char) : Bool :=
  c.isAlphanum || c == '_' || c == '+' || c == '-' || c == '.'

/-- A number, a truth value, a date or a time. -/
def scalar : Reader Document := fun cs =>
  let word := cs.takeWhile isWordChar
  let rest := cs.drop word.length
  match String.ofList word with
  | "true" => some (.bool true, rest)
  | "false" => some (.bool false, rest)
  | _ =>
    match integer? word, real? word with
    | some n, _ => if rest.head? == some ':' then clock cs else some (.int n, rest)
    | none, some x => some (.real x, rest)
    | none, none => clock cs
where
  clock : Reader Document := fun cs => (moment cs).map fun (s, rest) => (.text s, rest)

end ShadowTraffic.Toml
