/-
What a policy decides about a principal, and why.
-/

namespace AccessPolicy

/-- Why access is granted or refused. -/
inductive Outcome where
  /-- Everything is in order. -/
  | granted
  /-- The principal is not authenticated. -/
  | unauthenticated
  /-- The policy has no rule, so nobody gets in. -/
  | locked
  /-- None of the allowed names stands for the principal. -/
  | notAllowed
  /-- The denied role stands for the principal, and no allowed name does. -/
  | deniedRole (role : String)
  /-- The denied user stands for the principal, and no allowed name does. -/
  | deniedUser (user : String)
  /-- A required claim of the type is missing. -/
  | missingClaim (type : String)
deriving DecidableEq

namespace Outcome

/-- Whether access is granted. -/
def isGranted : Outcome → Bool
  | granted => true
  | _ => false

/-- The outcome as it is shown to people. -/
def message : Outcome → String
  | granted => "granted"
  | unauthenticated => "principal is not authenticated"
  | locked => "policy grants access to no one"
  | notAllowed => "principal matches no allowed role or user"
  | deniedRole role => "role '" ++ role ++ "' is denied"
  | deniedUser user => "user '" ++ user ++ "' is denied"
  | missingClaim type => "missing required claim '" ++ type ++ "'"

theorem isGranted_iff {o : Outcome} : o.isGranted = true ↔ o = granted := by
  cases o <;> simp [isGranted]

end Outcome

/-- The result of asking one policy. -/
structure Decision where
  policy : String
  outcome : Outcome
deriving DecidableEq

/-- Whether access is granted. -/
def Decision.isGranted (d : Decision) : Bool := d.outcome.isGranted

/-- Why a request for access is refused. -/
inductive Refusal where
  /-- The policy said no. -/
  | accessDenied (policy : String) (reason : Outcome)
  /-- There is no policy of the name. -/
  | unknownPolicy (policy : String)
deriving DecidableEq

/-- The refusal as it is shown to people. -/
def Refusal.message : Refusal → String
  | accessDenied policy reason => "Access denied by policy '" ++ policy ++ "': " ++ reason.message
  | unknownPolicy policy => "Unknown policy: " ++ policy

end AccessPolicy
