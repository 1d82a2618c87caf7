/-
Enforcement: asking a policy on behalf of a request, with an audit trail.
-/
import AccessPolicy.PolicySet

namespace AccessPolicy

/-- A gate over compiled policies. -/
structure Enforcer where
  policies : CompiledPolicies
  /-- Whether requests leave a trace in the log. -/
  audit : Bool := true
deriving DecidableEq

namespace Enforcer

/-- The event that a request leaves in the audit trail. -/
def auditEvent (name : String) (p : Principal) : Except Refusal Decision → Event
  | .ok d =>
    if d.isGranted then .accessGranted name p.userId else .accessDenied name p.userId d.outcome
  | .error _ => .unknownPolicy name p.userId

/-- Asks the named policy; with auditing on, the answer is logged. -/
def decide (e : Enforcer) (name : String) (p : Principal) : Except Refusal Decision × List Event :=
  let answer := e.policies.authorize name p
  (answer, if e.audit then [auditEvent name p answer] else [])

/-- Turns an answer into leave to go on, or a refusal. -/
def admission : Except Refusal Decision → Except Refusal Unit
  | .ok d => if d.isGranted then .ok () else .error (.accessDenied d.policy d.outcome)
  | .error refusal => .error refusal

/-- Enforces the named policy; with auditing on, the answer is logged. -/
def enforce (e : Enforcer) (name : String) (p : Principal) : Except Refusal Unit × List Event :=
  let (answer, events) := e.decide name p
  (admission answer, events)

/-! ## Runs -/

/-- One use of an enforcer. -/
inductive Step where
  | setAudit (enabled : Bool)
  | decide (policy : String) (principal : Principal)
  | enforce (policy : String) (principal : Principal)
  /-- Asks the compiled policies directly, past the audit trail. -/
  | authorize (policy : String) (principal : Principal)
  | contains (policy : String)
  | policies

/-- What one use of an enforcer answers. -/
inductive StepResult where
  | done
  | decision (answer : Except Refusal Decision)
  | admission (answer : Except Refusal Unit)
  | contained (answer : Bool)
  | policies (answer : CompiledPolicies)

/-- The enforcer after a step, the answer, and the events. -/
def step (e : Enforcer) : Step → Enforcer × StepResult × List Event
  | .setAudit enabled => ({ e with audit := enabled }, .done, [])
  | .decide name p => let (answer, events) := e.decide name p; (e, .decision answer, events)
  | .enforce name p => let (answer, events) := e.enforce name p; (e, .admission answer, events)
  | .authorize name p => (e, .decision (e.policies.authorize name p), [])
  | .contains name => (e, .contained (e.policies.contains name), [])
  | .policies => (e, .policies e.policies, [])

/-- The answers and events of a sequence of steps. -/
def run (e : Enforcer) : List Step → List (StepResult × List Event)
  | [] => []
  | s :: steps =>
    let (e', answer, events) := e.step s
    (answer, events) :: e'.run steps

end Enforcer

end AccessPolicy
