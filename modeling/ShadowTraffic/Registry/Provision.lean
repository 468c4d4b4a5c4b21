/-! # Provisioning

What building or closing a shadow resource can end with.
-/

namespace ShadowTraffic

/-- Handles of resources, by name. -/
abbrev Handle := String

/-- Why a shadow resource is not there, or did not close. -/
inductive ProvisionError where
  | connection (message : String)
  | invalidConfig (message : String)
  | other (message : String)
deriving DecidableEq

def ProvisionError.message : ProvisionError → String
  | connection m => "Shadow connection error: " ++ m
  | invalidConfig m => "Invalid shadow configuration: " ++ m
  | other m => m

/-- The result of a build: a handle, no shadow configured, or a failure. -/
abbrev Provision := Except ProvisionError (Option Handle)

inductive ProvisionOutcome where
  | built
  | absent
  | failed
deriving DecidableEq

def ProvisionOutcome.name : ProvisionOutcome → String
  | built => "built"
  | absent => "absent"
  | failed => "failed"

def Provision.outcome : Provision → ProvisionOutcome
  | .ok (some _) => .built
  | .ok none => .absent
  | .error _ => .failed

/-- The handle a build gave; a failure counts as no shadow. -/
def Provision.handle? : Provision → Option Handle
  | .ok handle => handle
  | .error _ => none

end ShadowTraffic
