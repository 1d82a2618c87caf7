/-
The data of policies and settings, as documents spell them.
-/
import AccessPolicy.Document.Format
import AccessPolicy.Identity
import AccessPolicy.Settings

namespace AccessPolicy.Format

variable {ν : Type} (F : Format ν)

/-! ## Policies -/

/-- The fields of a required claim. -/
def claimFields : List (Field ν Claim) := [
  { name := "type", required := true,
    read := fun x c => return { c with type := ← F.text x } },
  { name := "values",
    read := fun x c => return { c with values := ← F.readNames x } }]

/-- Reads a required claim. -/
def readClaim (x : ν) : Except ReadError Claim :=
  F.readRecord "Claim" F.claimFields { type := "" } x

/-- The fields of a rule. -/
def ruleFields : List (Field ν Rule) := [
  { name := "allow_roles",
    read := fun x r => return { r with allowRoles := ← F.readNames x } },
  { name := "allow_users",
    read := fun x r => return { r with allowUsers := ← F.readNames x } },
  { name := "deny_roles",
    read := fun x r => return { r with denyRoles := ← F.readOption F.readNames x } },
  { name := "deny_users",
    read := fun x r => return { r with denyUsers := ← F.readOption F.readNames x } },
  { name := "allow_claim",
    read := fun x r => return { r with allowClaim := ← F.readOption F.readClaim x } },
  { name := "allow_claims",
    read := fun x r =>
      return { r with allowClaims := ← F.readOption (F.readList F.readClaim) x } }]

/-- Reads a rule. -/
def readRule (x : ν) : Except ReadError Rule := F.readRecord "PolicyRule" F.ruleFields {} x

/-- Reads named rules; a name without a rule is locked. -/
def readPolicySet (x : ν) : Except ReadError PolicySet := do
  return ⟨← F.readMap (F.readOption F.readRule) x⟩

/-! ## Identities -/

/-- The fields of a claim that is held. -/
def heldClaimFields : List (Field ν HeldClaim) := [
  { name := "type", required := true,
    read := fun x c => return { c with type := ← F.text x } },
  { name := "value", required := true,
    read := fun x c => return { c with value := ← F.text x } }]

/-- Reads a claim that is held. -/
def readHeldClaim (x : ν) : Except ReadError HeldClaim :=
  F.readRecord "HeldClaim" F.heldClaimFields ⟨"", ""⟩ x

/-- The fields of an identity. -/
def identityFields : List (Field ν Identity) := [
  { name := "user_id",
    read := fun x i => return { i with userId := ← F.readOption F.text x } },
  { name := "authenticated",
    read := fun x i => return { i with authenticated := ← F.bool x } },
  { name := "roles",
    read := fun x i => return { i with roles := ← F.readNames x } },
  { name := "claims",
    read := fun x i => return { i with claims := ← F.readList F.readHeldClaim x } }]

/-- Reads an identity. -/
def readIdentity (x : ν) : Except ReadError Identity :=
  F.readRecord "Identity" F.identityFields {} x

/-! ## Settings -/

/-- The fields of the logging settings. -/
def loggingFields : List (Field ν Logging) := [
  { name := "level", read := fun x l => return { l with level := ← F.text x } },
  { name := "audit", read := fun x l => return { l with audit := ← F.bool x } }]

/-- Reads the logging settings. -/
def readLogging (x : ν) : Except ReadError Logging :=
  F.readRecord "LoggingConfig" F.loggingFields {} x

/-- The fields of the settings. -/
def settingsFields : List (Field ν Settings) := [
  { name := "locked",
    read := fun x s => return { s with locked := ← F.readNames x } },
  { name := "logging",
    read := fun x s => return { s with logging := ← F.readLogging x } },
  { name := "policies",
    read := fun x s => return { s with policies := ← F.readMap F.readRule x } }]

/-- Reads settings. -/
def readSettings (x : ν) : Except ReadError Settings :=
  F.readRecord "WardenConfig" F.settingsFields {} x

end AccessPolicy.Format
