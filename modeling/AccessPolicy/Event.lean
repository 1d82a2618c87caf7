/-
The events that compiling and enforcing report, and the log records in which
they are written down.
-/
import AccessPolicy.Policy
import AccessPolicy.Text.Quoted

namespace AccessPolicy

/-- How much a log record matters. -/
inductive Level where
  | trace
  | debug
  | info
  | warn
  | error
deriving DecidableEq

namespace Level

/-- The level's name in a log line. -/
def name : Level → String
  | trace => "TRACE"
  | debug => "DEBUG"
  | info => "INFO"
  | warn => "WARN"
  | error => "ERROR"

/-- How important the level is; the most important level has rank one. -/
def rank : Level → Nat
  | error => 1
  | warn => 2
  | info => 3
  | debug => 4
  | trace => 5

end Level

/-- The value of a field of a log record. -/
inductive FieldValue where
  | text (s : String)
  | number (n : Nat)
deriving DecidableEq

/-- The value as it stands in a log line. -/
def FieldValue.shown : FieldValue → String
  | text s => s
  | number n => toString n

/-- A log record. -/
structure LogRecord where
  level : Level
  /-- The part of the program that speaks. -/
  target : String
  message : String
  fields : List (String × FieldValue)
deriving DecidableEq

/-- Something worth a log record. -/
inductive Event where
  | compiledLocked (policy : String)
  | compiledRule (policy : String) (identities denyRoles denyUsers claims : Nat)
  | compiledSet (policies locked : Nat)
  | accessGranted (policy : String) (user : Option String)
  | accessDenied (policy : String) (user : Option String) (reason : Outcome)
  | unknownPolicy (policy : String) (user : Option String)
deriving DecidableEq

namespace Event

/-- The part of the program that compiles. -/
def compilerTarget : String := "warden_policy::compiler"

/-- The part of the program that enforces. -/
def enforcementTarget : String := "warden_policy::enforcement"

/-- The event as a log record. -/
def record : Event → LogRecord
  | compiledLocked policy =>
    ⟨.debug, compilerTarget, "Compiled locked policy", [("policy", .text policy)]⟩
  | compiledRule policy identities denyRoles denyUsers claims =>
    ⟨.debug, compilerTarget, "Compiled policy",
      [("policy", .text policy), ("identities", .number identities),
       ("deny_roles", .number denyRoles), ("deny_users", .number denyUsers),
       ("claims", .number claims)]⟩
  | compiledSet policies locked =>
    ⟨.debug, compilerTarget, "Compiled policy set",
      [("policies", .number policies), ("locked", .number locked)]⟩
  | accessGranted policy user =>
    ⟨.info, enforcementTarget, "Access granted",
      [("policy", .text policy), ("user", .text (Text.quoteOption user))]⟩
  | accessDenied policy user reason =>
    ⟨.warn, enforcementTarget, "Access denied",
      [("policy", .text policy), ("user", .text (Text.quoteOption user)),
       ("reason", .text reason.message)]⟩
  | unknownPolicy policy user =>
    ⟨.warn, enforcementTarget, "Unknown policy requested",
      [("policy", .text policy), ("user", .text (Text.quoteOption user))]⟩

/-- The event of compiling one policy. -/
def ofPolicy (p : Policy) : Event :=
  match p.body with
  | .locked => compiledLocked p.name
  | .rule r =>
    compiledRule p.name r.identities.length (r.denyRoles.getD []).length
      (r.denyUsers.getD []).length r.claims.length

end Event

end AccessPolicy
