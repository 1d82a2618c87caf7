/-
Settings: the policies that are declared, the names that are locked, and how
much is logged.
-/
import AccessPolicy.PolicySet

namespace AccessPolicy

/-- How much is logged. -/
structure Logging where
  /-- Which log records are shown, unless the environment says otherwise. -/
  level : String := "warn"
  /-- Whether requests for access leave a trace in the log. -/
  audit : Bool := true
deriving DecidableEq, Inhabited

/-- Everything that can be configured. -/
structure Settings where
  /-- Names that are registered without a rule. -/
  locked : NameSet := ∅
  logging : Logging := {}
  policies : NameMap Rule := ∅
deriving DecidableEq, Inhabited

namespace Settings

/-- The smallest name that is locked and has a rule as well. -/
def clash? (s : Settings) : Option String := s.locked.toList.find? s.policies.contains

/-- How a clash of names is reported. -/
def clashMessage (name : String) : String :=
  "Policy '" ++ name ++ "' is declared both as a rule and as locked"

/-- The declared policies and locks; a name that is both is an error. -/
def policySet (s : Settings) : Except String PolicySet :=
  match s.clash? with
  | some name => .error name
  | none => .ok (.ofList (s.policies.toList.map (fun e => (e.1, some e.2))
      ++ s.locked.toList.map fun n => (n, none)))

/-- The settings that a new project starts with. -/
def sample : Settings where
  locked := .ofList ["legacy_export"]
  policies := .ofList [
    ("reports", {
      allowRoles := .ofList ["analyst", "admin"]
      denyRoles := some (.ofList ["contractor"])
      allowClaim := some (.ofValues "dept" ["finance", "eng"]) }),
    ("admin_panel", {
      allowRoles := .ofList ["admin"]
      denyUsers := some (.ofList ["mallory"])
      allowClaims := some [.ofValues "mfa" ["true"]] }),
    ("profile", {})]

end Settings

end AccessPolicy
