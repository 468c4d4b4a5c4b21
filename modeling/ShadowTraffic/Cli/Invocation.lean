import ShadowTraffic.Cli.Options
import ShadowTraffic.Identity
import ShadowTraffic.Text.Blank

/-! # What a command line asks for

The first argument that is no option names the command, and the options behind it are those of
the command. Being verbose may be asked for on either side of the name.
-/

namespace ShadowTraffic.Cli

inductive Command where
  | validate (path : String)
  | create (path : String)
  | resolve (d : Descriptor) (json : Bool)
  | inspect (path resource : Option String) (headers : List (String × String))
deriving DecidableEq

/-- A command, and whether to log what goes on. -/
structure Invocation where
  command : Command
  verbose : Bool
deriving DecidableEq

namespace Invocation

/-- The file that is meant when none is named. -/
def defaultPath : String := "shadowline.toml"

def verboseOption : OptionSpec := { long := "verbose", short := some 'v', takesValue := false }

def options? : String → Option (List OptionSpec)
  | "validate" | "init" => some [{ long := "config", short := some 'c' }]
  | "resolve" => some [{ long := "endpoint" }, { long := "port" }, { long := "namespace" },
      { long := "token" }, { long := "principal" }, { long := "json", takesValue := false }]
  | "inspect" => some [{ long := "config", short := some 'c' },
      { long := "resource", short := some 'r' }, { long := "header", repeats := true }]
  | _ => none

/-- A header as a name and a value with an equals sign between them; blanks around both are
dropped, and the name must not be empty. -/
def header? (text : String) : Option (String × String) :=
  let cs := text.toList
  let name := cs.takeWhile (· != '=')
  match cs.drop name.length with
  | _ :: value =>
    let name := Text.trim (String.ofList name)
    if name.isEmpty then none else some (name, Text.trim (String.ofList value))
  | [] => none

/-- The command of a name with the options given to it. -/
def command? (name : String) (g : Given) : Option Command :=
  match name with
  | "validate" => some (.validate ((g.value? "config").getD defaultPath))
  | "init" => some (.create ((g.value? "config").getD defaultPath))
  | "resolve" => do
    let endpoint ← g.value? "endpoint"
    pure (.resolve {
      endpoint := some endpoint
      port := g.value? "port"
      space := g.value? "namespace"
      credentialToken := g.value? "token"
      principal := g.value? "principal" } (g.has "json"))
  | "inspect" => do
    let headers ← (g.values "header").mapM header?
    pure (.inspect (g.value? "config") (g.value? "resource") headers)
  | _ => none

/-- A command's name and the options before it, and what follows it. -/
def split : (outer : Given) → List String → Option (Given × String × List String)
  | _, [] => none
  | outer, arg :: rest =>
    if (options? arg).isSome then some (outer, arg, rest)
    else
      match readOption [verboseOption] outer arg.toList with
      | some (outer, _) => split outer rest
      | none => none

/-- What arguments ask for, if they make sense. -/
def parse? (args : List String) : Option Invocation := do
  let (outer, name, rest) ← split [] args
  let g ← readOptions (verboseOption :: (← options? name)) ([], none) rest
  let command ← command? name g
  pure ⟨command, outer.has "verbose" || g.has "verbose"⟩

end Invocation

end ShadowTraffic.Cli
