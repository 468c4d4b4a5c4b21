import ShadowTraffic.Config.Decoding
import ShadowTraffic.Config.Overlay
import ShadowTraffic.Directory
import ShadowTraffic.Ini.Reader
import ShadowTraffic.Json.Reader
import ShadowTraffic.Text.Utf8
import ShadowTraffic.Toml.Reader
import ShadowTraffic.Yaml.Reader

/-! # Loading settings

Settings come from a file, whose name tells its format, with variables of the environment laid
over it. A file that is missing or does not parse fails the building of a document; a document
that does not fit fails the reading of settings from it.
-/

namespace ShadowTraffic

/-! ## Formats -/

inductive FileFormat where
  | yaml
  | json
  | toml
  | ini
deriving DecidableEq

namespace FileFormat

/-- A path, in reverse, without slashes and single points at its end. -/
def withoutEnd : List Char → List Char
  | '/' :: rest => withoutEnd rest
  | '.' :: '/' :: rest => withoutEnd rest
  | ['.'] => []
  | cs => cs

/-- A path up to the name of its file, and that name, both in reverse. Where the path ends by
climbing up there is no name. -/
def named? (path : String) : Option (List Char × List Char) :=
  let stem := withoutEnd path.toList.reverse
  let name := stem.takeWhile (· != '/')
  if name.isEmpty || name == ['.', '.'] then none else some (stem, name)

/-- What stands behind the last point of a file's name, unless the point begins it. -/
def extension? (path : String) : Option String := do
  let (_, name) ← named? path
  let ext := name.takeWhile (· != '.')
  match name.drop ext.length with
  | '.' :: _ :: _ => some (String.ofList ext.reverse)
  | _ => none

/-- The format of a file; without a known extension it is YAML. -/
def ofPath (path : String) : FileFormat :=
  match extension? path with
  | some "json" => json
  | some "toml" => toml
  | some "ini" => ini
  | _ => yaml

def extensions : FileFormat → List String
  | yaml => ["yaml", "yml"]
  | json => ["json"]
  | toml => ["toml"]
  | ini => ["ini"]

def read? : FileFormat → String → Option Document
  | yaml => Yaml.parse?
  | json => Json.parse?
  | toml => Toml.parse?
  | ini => Ini.parse?

/-- The names that are tried for a path, the path itself first. -/
def candidates (path : String) : List String :=
  path :: match named? path with
    | some (stem, _) =>
      (ofPath path).extensions.map fun ext => String.ofList stem.reverse ++ "." ++ ext
    | none => []

end FileFormat

/-! ## The environment -/

abbrev Environment := List (String × String)

namespace Environment

/-- What the names of variables that hold settings begin with, in lower case. -/
def start : String := "shadowline__"

/-- A name in lower case, as far as letters go that become ASCII ones. -/
def lower (name : String) : String :=
  String.ofList ((Text.asciiLower name).toList.map fun c => if c == '\u212a' then 'k' else c)

/-- The value of a variable: a truth value, a whole number, another number, or text. -/
def value (s : String) : Document :=
  match Text.asciiLower s with
  | "true" => .bool true
  | "false" => .bool false
  | _ =>
    match Number.integer? s, Number.float? s with
    | some n, _ => .int n
    | none, some x => .real x
    | none, none => .text s

/-- The key a variable sets: its name behind the beginning, with points for double underscores. -/
def key? (name : String) : Option String :=
  (Text.rest? (lower name) start).map fun rest => Text.joined "." (Text.pieces rest "__")

def overrides (env : Environment) : List (String × Document) :=
  env.filterMap fun v => (key? v.1).map (·, value v.2)

end Environment

/-! ## Settings -/

inductive LoadError where
  | build (path : String)
  | deserialize (path : String)
deriving DecidableEq

def LoadError.message : LoadError → String
  | build path => "Failed to build config from " ++ path
  | deserialize path => "Failed to deserialize config from " ++ path

/-- The text of a file: a mark of byte order is dropped, and bytes that are no text are
replaced. -/
def fileText (bytes : List UInt8) : String :=
  match bytes with
  | 0xEF :: 0xBB :: 0xBF :: rest => Text.Utf8.decode rest
  | bytes => Text.Utf8.decode bytes

/-- The fields of the document in a file; it must be a table. -/
def fileFields? (format : FileFormat) (bytes : List UInt8) : Option (List (String × Document)) := do
  match (← format.read? (fileText bytes)).unique with
  | .table fields => pure fields
  | _ => none

/-- The document of a file with the environment laid over it. -/
def layered (fields : List (String × Document)) (env : Environment) : Document :=
  ((Document.table []).setAll fields).setAll env.overrides

/-- The file that is read for a path: the first candidate that is one. -/
def FileView.configuration? (view : FileView) (path : String) : Option (List UInt8) :=
  (FileFormat.candidates path).findSome? fun name => (view name).bytes?

def Settings.load (view : FileView) (env : Environment) (path : String) :
    Except LoadError Settings :=
  match (view.configuration? path).bind (fileFields? (FileFormat.ofPath path)) with
  | none => .error (.build path)
  | some fields =>
    match Decoding.coercing.settings? (layered fields env) with
    | some s => .ok s
    | none => .error (.deserialize path)

end ShadowTraffic
