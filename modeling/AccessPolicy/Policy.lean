/-
Compiled policies: a rule brought into the form in which it is evaluated.

Evaluation runs through a chain of checks and reports the first that fails:
authentication, the lock, the allowed names, the denied roles, the denied
users, the required claims. Being allowed by name switches the two deny lists
off.
-/
import AccessPolicy.Rule
import AccessPolicy.Outcome

namespace AccessPolicy

/-- A rule in the form in which it is evaluated: allowed roles and users
merged into one increasing list, the required claims in one list. -/
structure CompiledRule where
  identities : List String
  denyRoles : Option (List String)
  denyUsers : Option (List String)
  claims : List Claim
deriving DecidableEq

namespace CompiledRule

/-- Brings a rule into the form in which it is evaluated. -/
def ofRule (r : Rule) : CompiledRule where
  identities := r.allowed.toList
  denyRoles := r.denyRoles.map NameSet.toList
  denyUsers := r.denyUsers.map NameSet.toList
  claims := r.requiredClaims

/-- The first name of an optional list that stands for the principal. -/
def firstMember (names : Option (List String)) (p : Principal) : Option String :=
  (names.getD []).find? p.isMemberOf

/-- The refusal by a deny list, if there is one. -/
def denial (r : CompiledRule) (p : Principal) : Option Outcome :=
  match firstMember r.denyRoles p with
  | some role => some (.deniedRole role)
  | none => (firstMember r.denyUsers p).map .deniedUser

/-- What the required claims say. -/
def claimsOutcome (r : CompiledRule) (p : Principal) : Outcome :=
  match r.claims.find? fun c => !c.satisfiedBy p with
  | some c => .missingClaim c.type
  | none => .granted

/-- What the rule says about an authenticated principal. -/
def outcome (r : CompiledRule) (p : Principal) : Outcome :=
  if r.identities.any p.isMemberOf then r.claimsOutcome p
  else if !r.identities.isEmpty then .notAllowed
  else match r.denial p with
    | some refusal => refusal
    | none => r.claimsOutcome p

end CompiledRule

/-- What a compiled policy consists of. -/
inductive PolicyBody where
  /-- No rule: nobody gets in. -/
  | locked
  | rule (rule : CompiledRule)
deriving DecidableEq

/-- A named policy, ready to be asked. -/
structure Policy where
  name : String
  body : PolicyBody
deriving DecidableEq

namespace Policy

/-- Compiles a named rule; a name without a rule refuses everyone. -/
def compile (name : String) : Option Rule → Policy
  | none => ⟨name, .locked⟩
  | some rule => ⟨name, .rule (.ofRule rule)⟩

/-- Whether the policy has no rule. -/
def isLocked (p : Policy) : Bool :=
  match p.body with
  | .locked => true
  | .rule _ => false

/-- What the policy says about a principal, and why. -/
def outcome (p : Policy) (principal : Principal) : Outcome :=
  if !principal.authenticated then .unauthenticated
  else match p.body with
    | .locked => .locked
    | .rule rule => rule.outcome principal

/-- The decision about a principal. -/
def evaluate (p : Policy) (principal : Principal) : Decision := ⟨p.name, p.outcome principal⟩

/-- The policy as a yes-or-no question. -/
def satisfiedBy (p : Policy) (principal : Principal) : Bool := (p.outcome principal).isGranted

end Policy

end AccessPolicy
