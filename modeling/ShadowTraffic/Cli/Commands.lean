import ShadowTraffic.Cli.Invocation
import ShadowTraffic.Cli.Outcome
import ShadowTraffic.Config.Loading
import ShadowTraffic.Config.Validation
import ShadowTraffic.Json.Writer

/-! # The commands

Each command is a function of what can be seen of the files and of the environment. Checking a
file ends well only if it loads and nothing is wrong with it; creating one never touches a file
that is there; resolving and inspecting never show a token.
-/

namespace ShadowTraffic.Cli

/-- Lines, each with its end. -/
def lines (ls : List String) : String :=
  String.join (ls.map (· ++ "\n"))

def inWords (b : Bool) : String :=
  if b then "true" else "false"

/-! ## Checking a file -/

def summary (s : Settings) : List String :=
  ["📋 Configuration Summary:",
    "   • Marker Key: " ++ s.marker.markerKey,
    "   • Test Prefix: " ++ s.marker.testPrefix.getD "(none)",
    "   • Name Patterns: " ++ toString s.marker.patterns.length,
    "   • Shadow Routing Enabled: " ++ inWords s.routing.enabled,
    "   • Whitelisted Resources: " ++ toString s.routing.whitelist.length,
    "   • Default Scope Policy: " ++ s.scope.defaultPolicy.description]

def fixes : List String :=
  ["💡 Common fixes:",
    "   • Propagation keys must be valid header names (no spaces)",
    "   • Escape regex metacharacters in marker patterns",
    "   • Use RUST_LOG syntax for logging.level (e.g. 'shadowline=debug')"]

def validate (view : FileView) (env : Environment) (path : String) : Outcome :=
  let opening := "🔍 Validating configuration file: " ++ path
  if !(view path).isThere then
    ⟨lines [opening], .refused (lines ["❌ Error: Configuration file '" ++ path ++ "' not found"])⟩
  else
    match Settings.load view env path with
    | .error e =>
      ⟨lines [opening], .refused (lines ["❌ Configuration parsing failed:", "   " ++ e.message])⟩
    | .ok s =>
      let parsed := [opening, "✅ Configuration parsing: OK"]
      match s.validate with
      | .ok () =>
        ⟨lines (parsed ++ ["✅ Configuration validation: OK", ""] ++ summary s ++
          ["", "🎉 Configuration is valid and ready to use!"]), .success⟩
      | .error problems =>
        ⟨lines (parsed ++ "" :: fixes), .refused (lines ["❌ Configuration validation failed:",
          Settings.failure Problem.message problems])⟩

/-! ## Creating a file -/

/-- The file that is created: every setting with its default. -/
def defaultFile : String :=
  lines ["# Shadowline mediation configuration",
    "",
    "[marker]",
    "# Propagation key carrying the explicit test-traffic flag",
    "marker_key = \"x-shadow-test\"",
    "# Propagation key of the trace id stamped on root contexts",
    "trace_id_key = \"x-shadow-trace-id\"",
    "truthy_values = [\"true\", \"1\"]",
    "# Extra keys forwarded across call boundaries; marker and trace id keys are always forwarded",
    "propagation_keys = []",
    "# Resources named with this prefix are test resources (also behind wrapper prefixes)",
    "test_prefix = \"PT_\"",
    "wrapper_prefixes = [\"%RETRY%\", \"%DLQ%\"]",
    "# Regular expressions matched against resource names",
    "patterns = []",
    "",
    "[routing]",
    "# When false, test traffic is rejected instead of touching any resource",
    "enabled = true",
    "flag_fallback = true",
    "# Resources test traffic may reach on the business handle without substitution",
    "whitelist = []",
    "",
    "[scope]",
    "# \"boundary\" fires mediation once per outer call, \"internal\" on every call",
    "default_policy = \"boundary\"",
    "",
    "[logging]",
    "level = \"info\"",
    "json = true",
    "include_spans = false"]

/-- Creates a file at a path where there is nothing. -/
def create (view : FileView) (path : String) : Action :=
  if (view path).isThere then
    .finish ⟨"", .refused
      (lines ["❌ Error: Configuration file '" ++ path ++ "' already exists"])⟩
  else
    .write path defaultFile fun
      | .ok () => ⟨lines ["✅ Created default configuration at: " ++ path,
          "   Run 'shadowline validate --config " ++ path ++ "' to check it"], .success⟩
      | .error e => ⟨"", .failed ["Failed to write config file", e.message]⟩

/-! ## Resolving a descriptor -/

/-- A text, or nothing. -/
def orNull : Option String → Document
  | some s => .text s
  | none => .null

/-- A descriptor and its identity, without the token. -/
def identityDocument (d : Descriptor) (i : Identity) : Document :=
  .table [("endpoint", orNull d.endpoint),
    ("has_credential_token", .bool d.credentialToken.isSome),
    ("identity", .text i.redacted),
    ("namespace", orNull d.space),
    ("port", orNull d.port),
    ("principal", orNull d.principal)]

def resolve (d : Descriptor) (json : Bool) : Outcome :=
  match d.resolve with
  | .error e => ⟨"", .failed ["Failed to resolve identity", e.message]⟩
  | .ok i =>
    let line := if json then Json.pretty 0 (identityDocument d i)
      else "🔑 Resource identity: " ++ i.redacted
    ⟨lines [line], .success⟩

/-! ## Inspecting a call -/

/-- The headers of a call, set one after the other. -/
def carry : Carrier → List (String × String) → Except (String × CarrierError) Carrier
  | carrier, [] => .ok carrier
  | carrier, (key, value) :: rest =>
    match carrier.set key value with
    | .ok carrier => carry carrier rest
    | .error e => .error (key, e)

/-- Who decided, and how. -/
def verdict (d : Detection) : String :=
  match d.decidedBy with
  | some kind =>
    "🧪 Test traffic: " ++ inWords d.marked ++ " (decided by " ++ kind.description ++ ")"
  | none => "🧪 Test traffic: false (no detector matched)"

/-- What would become of a call that is test traffic. -/
def forecast (s : RoutingSettings) (d : Detection) (resource : Option String) : List String :=
  if !d.marked then []
  else if !s.enabled then ["⛔ Shadow routing is switched off; this call would be rejected"]
  else if resource.any s.whitelist.contains then
    ["✅ Resource is whitelisted; this call would run on the business resource"]
  else []

/-- The settings of a path; without one, the defaults. -/
def settingsOf (view : FileView) (env : Environment) :
    Option String → Except (List String) Settings
  | none => .ok {}
  | some path =>
    match Settings.load view env path with
    | .ok s => .ok s
    | .error e => .error ["Failed to load config from " ++ path, e.message]

/-- Shows what a call with these headers on a resource would be taken for. -/
def inspection (s : Settings) (resource : Option String) (headers : List (String × String)) :
    Except (List String) (List String) :=
  match Rules.ofSettings s.marker with
  | .error e => .error (["Invalid marker configuration", e.message] ++ e.detail?.toList)
  | .ok rules =>
    match carry (.headers {}) headers with
    | .error (key, e) => .error ["Header '" ++ key ++ "' cannot be carried", e.message]
    | .ok carrier =>
      let t := rules.adopt carrier
      let d := rules.detect t resource
      .ok (["📨 Adopted " ++ toString t.entries.size ++ " propagation entries"] ++
        (t.entries.entries.map fun e => "   • " ++ e.1 ++ ": " ++ e.2) ++ [verdict d] ++
        ((rules.traceId? t).map ("🔗 Trace id: " ++ ·)).toList ++ forecast s.routing d resource)

def inspect (view : FileView) (env : Environment) (path resource : Option String)
    (headers : List (String × String)) : Outcome :=
  match settingsOf view env path with
  | .error chain => ⟨"", .failed chain⟩
  | .ok s =>
    match inspection s resource headers with
    | .error chain => ⟨"", .failed chain⟩
    | .ok shown => ⟨lines shown, .success⟩

/-! ## The program -/

def Command.action (view : FileView) (env : Environment) : Command → Action
  | validate path => .finish (Cli.validate view env path)
  | create path => Cli.create view path
  | resolve d json => .finish (Cli.resolve d json)
  | inspect path resource headers => .finish (Cli.inspect view env path resource headers)

def Command.paths : Command → List String
  | validate path => path :: FileFormat.candidates path
  | create path => [path]
  | resolve .. => []
  | inspect path .. => (path.map FileFormat.candidates).getD []

def Invocation.logged (i : Invocation) (env : Environment) : Option LogRecord :=
  if i.verbose then
    match LoggerKind.console.install ((env.find? (·.1 == "RUST_LOG")).map (·.2)) none with
    | .ok logger => logger.record {} LoggerKind.console.notice
    | .error _ => none
  else none

/-- Runs the program on the files of a directory. Nothing comes of arguments without sense. -/
def run (d : Directory) (env : Environment) (args : List String) : Option Run :=
  (Invocation.parse? args).map fun i =>
    let (outcome, after) := (i.command.action d.view env).perform d
    ⟨i.logged env, outcome, after⟩

end ShadowTraffic.Cli
