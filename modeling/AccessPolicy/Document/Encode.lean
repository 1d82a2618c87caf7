/-
Policies and settings as trees of data. Absent optional fields are left out.
-/
import AccessPolicy.Document.Tree
import AccessPolicy.Identity
import AccessPolicy.Settings

namespace AccessPolicy

/-- The names, in order. -/
def NameSet.toTree (s : NameSet) : Tree := .texts s.toList

/-- An entry that is left out if there is no value. -/
def optionalEntry {α : Type} (key : String) (toTree : α → Tree) : Option α → List (String × Tree)
  | none => []
  | some x => [(key, toTree x)]

/-- The claim as a table. -/
def Claim.toTree (c : Claim) : Tree := .table [("type", .text c.type), ("values", c.values.toTree)]

/-- The claim as a table. -/
def HeldClaim.toTree (c : HeldClaim) : Tree :=
  .table [("type", .text c.type), ("value", .text c.value)]

/-- The identity as a table. -/
def Identity.toTree (i : Identity) : Tree := .table [
  ("user_id", match i.userId with
    | none => .null
    | some u => .text u),
  ("authenticated", .bool i.authenticated),
  ("roles", i.roles.toTree),
  ("claims", .list (i.claims.map HeldClaim.toTree))]

/-- The rule as a table. -/
def Rule.toTree (r : Rule) : Tree := .table (
  [("allow_roles", r.allowRoles.toTree), ("allow_users", r.allowUsers.toTree)]
    ++ optionalEntry "deny_roles" NameSet.toTree r.denyRoles
    ++ optionalEntry "deny_users" NameSet.toTree r.denyUsers
    ++ optionalEntry "allow_claim" Claim.toTree r.allowClaim
    ++ optionalEntry "allow_claims" (fun cs => .list (cs.map Claim.toTree)) r.allowClaims)

/-- The named rules as a table; a locked name has the value `null`. -/
def PolicySet.toTree (s : PolicySet) : Tree :=
  .table (s.toList.map fun e => (e.1, match e.2 with
    | none => .null
    | some r => r.toTree))

/-- The logging settings as a table. -/
def Logging.toTree (l : Logging) : Tree :=
  .table [("level", .text l.level), ("audit", .bool l.audit)]

/-- The settings as a table. -/
def Settings.toTree (s : Settings) : Tree := .table [
  ("locked", s.locked.toTree),
  ("logging", s.logging.toTree),
  ("policies", .table (s.policies.toList.map fun e => (e.1, e.2.toTree)))]

end AccessPolicy
