/-! # Options on a command line

An option has a long name and perhaps a short one, and takes a value or none. A value follows as
the next argument or behind an equals sign; behind a short name it may follow at once, and short
options without values may be joined. The next argument is no value if it begins with a hyphen,
unless it is a hyphen alone. An option is given once, unless it may be repeated.
-/

namespace ShadowTraffic.Cli

structure OptionSpec where
  long : String
  short : Option Char := none
  takesValue : Bool := true
  repeats : Bool := false
deriving DecidableEq

/-- The options given so far with their values, in order. -/
abbrev Given := List (String × String)

namespace Given

def values (g : Given) (name : String) : List String :=
  (g.filter (·.1 == name)).map (·.2)

/-- The value of an option that is given once. -/
def value? (g : Given) (name : String) : Option String :=
  (g.values name).head?

/-- Whether an option is given. -/
def has (g : Given) (name : String) : Bool :=
  !(g.values name).isEmpty

/-- One more option; only one that repeats may be given again. -/
def add (g : Given) (o : OptionSpec) (value : String) : Option Given :=
  if !o.repeats && g.has o.long then none else some (g ++ [(o.long, value)])

end Given

/-- What an argument leaves: the options given, and one that waits for its value. -/
abbrev Progress := Given × Option OptionSpec

def readShort (known : List OptionSpec) (g : Given) : List Char → Option Progress
  | [] => some (g, none)
  | c :: rest =>
    match known.find? (·.short == some c) with
    | none => none
    | some o =>
      if o.takesValue then
        match rest with
        | [] => some (g, some o)
        | '=' :: value => (g.add o (String.ofList value)).map (·, none)
        | value => (g.add o (String.ofList value)).map (·, none)
      else do readShort known (← g.add o "") rest

def readLong (known : List OptionSpec) (g : Given) (cs : List Char) : Option Progress :=
  let name := cs.takeWhile (· != '=')
  let value := (cs.drop name.length).tail?
  match known.find? (·.long.toList == name), value with
  | none, _ => none
  | some o, some value =>
    if o.takesValue then (g.add o (String.ofList value)).map (·, none) else none
  | some o, none => if o.takesValue then some (g, some o) else (g.add o "").map (·, none)

/-- An argument that begins with a hyphen and is not one alone. -/
def readOption (known : List OptionSpec) (g : Given) : List Char → Option Progress
  | '-' :: '-' :: [] => none
  | '-' :: '-' :: name => readLong known g name
  | '-' :: c :: rest => readShort known g (c :: rest)
  | _ => none

/-- Whether an argument can be the value of an option before it. -/
def isValue (arg : String) : Bool :=
  arg == "-" || arg.toList.head? != some '-'

/-- Options up to the end; behind a double hyphen nothing may follow. -/
def readOptions (known : List OptionSpec) : Progress → List String → Option Given
  | (g, none), [] => some g
  | (_, some _), [] => none
  | (g, some o), arg :: rest => do
    if isValue arg then readOptions known (← g.add o arg, none) rest else none
  | (g, none), arg :: rest =>
    if arg == "--" && rest.isEmpty then some g
    else
      match readOption known g arg.toList with
      | some progress => readOptions known progress rest
      | none => none

end ShadowTraffic.Cli
