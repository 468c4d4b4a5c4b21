import ShadowTraffic.Cli.Commands
import ShadowTraffic.Text.Utf8

/-! # The program

The outer layer: files, the environment and the streams of a process.
-/

namespace ShadowTraffic.Cli

def look (path : String) : IO FileEntry := do
  try
    let bytes ← IO.FS.readBinFile path
    return .file bytes.toList
  catch _ =>
    try
      discard (IO.FS.realPath path)
      return .directory
    catch _ => return .missing

def lookAt (paths : List String) : IO FileView := do
  let seen ← paths.mapM fun path => return (path, ← look path)
  return fun path => ((seen.find? (·.1 == path)).map (·.2)).getD .missing

def processVariables : IO Environment := do
  try
    let bytes ← IO.FS.readBinFile "/proc/self/environ"
    return (Text.pieces (Text.Utf8.decode bytes.toList) "\x00").filterMap fun entry =>
      match Text.pieces entry "=" with
      | name :: value :: more => some (name, Text.joined "=" (value :: more))
      | _ => none
  catch _ => return []

def writeFile (path content : String) : IO (Except WriteError Unit) := do
  try
    IO.FS.writeFile path content
    return .ok ()
  catch
    | .noFileOrDirectory .. => return .error .noDirectory
    | e => return .error (.other (toString e))

def recordLine (r : LogRecord) : String :=
  "  " ++ r.notice.level.name ++ " " ++ r.notice.target ++ ": " ++ r.notice.message ++ "\n"

/-- Carries out an action on the files of the system. -/
def Action.performIO : Action → IO Outcome
  | .finish o => return o
  | .write path content after => return after (← writeFile path content)

def numbered (messages : List String) : String :=
  lines (messages.mapIdx fun i m => "   " ++ toString i ++ ": " ++ m)

def report : Ending → IO Unit
  | .success => return
  | .refused message => IO.eprint message
  | .failed chain => IO.eprint ("Error: \n" ++ numbered chain)

end ShadowTraffic.Cli

open ShadowTraffic.Cli

def main (args : List String) : IO UInt32 := do
  match Invocation.parse? args with
  | none =>
    IO.eprintln "usage: shadowline [-v] <validate|init|resolve|inspect> [options]"
    return 2
  | some i =>
    let env ← processVariables
    let view ← lookAt i.command.paths
    for record in (i.logged env).toList do
      IO.print (recordLine record)
    let outcome ← (i.command.action view env).performIO
    IO.print outcome.output
    report outcome.ending
    return outcome.ending.code.toUInt32
