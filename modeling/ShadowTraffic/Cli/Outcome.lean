import ShadowTraffic.Directory
import ShadowTraffic.Log.Logger

/-! # How a command ends

A command writes to the output and ends well, is refused with a text of its own, or fails with a
chain of messages, the outermost first. One that creates a file ends as the writing goes.
-/

namespace ShadowTraffic.Cli

inductive Ending where
  | success
  | refused (message : String)
  | failed (chain : List String)
deriving DecidableEq

namespace Ending

def code : Ending → Nat
  | success => 0
  | refused _ | failed _ => 1

end Ending

/-- What a command wrote, and how it ended. -/
structure Outcome where
  output : String
  ending : Ending
deriving DecidableEq

/-- What a command comes to: an end, or a file to write first. -/
inductive Action where
  | finish (o : Outcome)
  | write (path content : String) (after : Except WriteError Unit → Outcome)

/-- Carries out an action on the files of a directory. -/
def Action.perform (d : Directory) : Action → Outcome × Directory
  | finish o => (o, d)
  | write path content after =>
    match d.write path content.toUTF8.toList with
    | .ok written => (after (.ok ()), written)
    | .error e => (after (.error e), d)

/-- A run of the program: what was logged first, and the outcome. -/
structure Run where
  logged : Option LogRecord
  outcome : Outcome
  directory : Directory

end ShadowTraffic.Cli
