/-
Checking a principal, described on the command line, against a policy.
-/
import AccessPolicy.Command.Invocation
import AccessPolicy.Command.Report
import AccessPolicy.Enforcer

namespace AccessPolicy.Command

open Terminal (Line)

/-- The type and the value of a claim as it is written: what stands before and
after the first equals sign. The type must not be empty. -/
def splitClaim? (claim : String) : Option (String × String) :=
  let l := claim.toList
  match l.takeWhile (· != '='), l.dropWhile (· != '=') with
  | c :: type, _ :: value => some (String.ofList (c :: type), String.ofList value)
  | _, _ => none

/-- Adds a claim as it is written to an identity. -/
def addClaim (i : Identity) (claim : String) : Except CommandError Identity :=
  match splitClaim? claim with
  | some (type, value) => .ok (i.withClaim type value)
  | none => .error (.badClaim claim)

namespace PrincipalOptions

/-- The identity without its roles and claims. Without a user it is a service;
an anonymous one keeps its user. -/
def base (p : PrincipalOptions) : Identity :=
  if p.anonymous then { Identity.anonymous with userId := p.user }
  else match p.user with
    | some user => .user user
    | none => .service

/-- The identity that the options describe. -/
def identity (p : PrincipalOptions) : Except CommandError Identity :=
  p.claims.foldlM addClaim (p.roles.foldl Identity.withRole p.base)

end PrincipalOptions

/-- What is said if there is no policy of the name. -/
def declaredHint (policies : CompiledPolicies) : Line :=
  if policies.isEmpty then
    Terminal.hint "No policies are declared. Run 'warden init' to write a starter config."
  else Terminal.hint ("Declared policies: " ++ ", ".intercalate policies.names)

/-- What is said when access is granted. -/
def grantedLines (policy : String) (i : Identity) : List Line :=
  [Terminal.success ("Access granted by policy '" ++ policy ++ "'")]
    ++ (i.userId.toList.map fun user => Terminal.labelled "User" user)
    ++ (if i.roles.isEmpty then []
      else [Terminal.labelled "Roles" (", ".intercalate i.roles.toList)])

/-- Checks an identity against a policy among the declared ones. -/
def checkAgainst (set : PolicySet) (audit : Bool) (policy : String) (i : Identity) : Report :=
  let enforcer : Enforcer := { policies := set.compile, audit }
  let (answer, events) := enforcer.enforce policy i.toPrincipal
  let hints := if enforcer.policies.contains policy then [] else [declaredHint enforcer.policies]
  let notices := Notice.ofEvents (set.compileEvents ++ events)
  match answer with
  | .ok () => { out := hints ++ grantedLines policy i, notices }
  | .error refusal => { out := hints, notices, error := some (.refused refusal) }

/-- Checks a principal against a policy. -/
def check (stack : Stack) (policy : String) (principal : PrincipalOptions) : Report :=
  match principal.identity with
  | .error e => { error := some e }
  | .ok i =>
    match stack.load with
    | .error _ => { error := some .notLoaded }
    | .ok settings =>
      match settings.policySet with
      | .error name => { error := some (.clash name) }
      | .ok set => checkAgainst set settings.logging.audit policy i

end AccessPolicy.Command
