/-
Rules: who is allowed, who is denied, and which claims are required.

A rule is only data; `Policy.compile` gives it its meaning. An absent deny
list differs from an empty one, and so does an absent list of claims.
-/
import AccessPolicy.Claim

namespace AccessPolicy

/-- The content of one policy. -/
structure Rule where
  /-- Roles that are let in. -/
  allowRoles : NameSet := ∅
  /-- Users that are let in. -/
  allowUsers : NameSet := ∅
  /-- Roles that are refused unless they are let in as well. -/
  denyRoles : Option NameSet := none
  /-- Users that are refused unless they are let in as well. -/
  denyUsers : Option NameSet := none
  /-- A claim that is required. -/
  allowClaim : Option Claim := none
  /-- Further claims that are required, all of them. -/
  allowClaims : Option (List Claim) := none
deriving DecidableEq, Inhabited

namespace Rule

/-- Everyone who is let in by name, role or user. -/
def allowed (r : Rule) : NameSet := r.allowRoles ∪ r.allowUsers

/-- All claims that are required, in the order in which they are checked. -/
def requiredClaims (r : Rule) : List Claim := r.allowClaim.toList ++ r.allowClaims.getD []

/-- Whether the rule says nothing at all. A deny list says something even when
it is empty. -/
def isEmpty (r : Rule) : Bool :=
  r.allowRoles.isEmpty && r.allowUsers.isEmpty && r.denyRoles.isNone && r.denyUsers.isNone
    && r.allowClaim.isNone && r.allowClaims.isNone

/-! ## Building rules step by step -/

/-- One step in building a rule. -/
inductive Edit where
  | allowRole (name : String)
  | allowUser (name : String)
  | denyRole (name : String)
  | denyUser (name : String)
  /-- Sets the single required claim, in the stead of an earlier one. -/
  | requireClaim (claim : Claim)
  /-- Adds a claim at the end of the list. -/
  | alsoRequireClaim (claim : Claim)
deriving DecidableEq

/-- The rule after one step. -/
def edit (r : Rule) : Edit → Rule
  | .allowRole n => { r with allowRoles := r.allowRoles.insert n }
  | .allowUser n => { r with allowUsers := r.allowUsers.insert n }
  | .denyRole n => { r with denyRoles := some ((r.denyRoles.getD ∅).insert n) }
  | .denyUser n => { r with denyUsers := some ((r.denyUsers.getD ∅).insert n) }
  | .requireClaim c => { r with allowClaim := some c }
  | .alsoRequireClaim c => { r with allowClaims := some (r.allowClaims.getD [] ++ [c]) }

/-- The rule after a sequence of steps. -/
def edits (r : Rule) (steps : List Edit) : Rule := steps.foldl edit r

end Rule

end AccessPolicy
