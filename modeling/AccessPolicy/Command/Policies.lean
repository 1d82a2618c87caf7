/-
Listing the declared policies in a table.
-/
import AccessPolicy.Command.Report
import AccessPolicy.Terminal.Table

namespace AccessPolicy.Command

open Terminal (Line)

/-- The items with commas between them, or a dash if there are none. -/
def joinOrDash (items : List String) : String :=
  if items.isEmpty then "-" else ", ".intercalate items

/-- The kind of a rule: one that says nothing admits whoever is authenticated. -/
def ruleKind (r : Rule) : String := if r.isEmpty then "authenticated" else "rule"

/-- The names that a rule denies. -/
def denied (r : Rule) : List String :=
  ((r.denyRoles.getD ∅).toList.map fun n => "role:" ++ n)
    ++ (r.denyUsers.getD ∅).toList.map fun n => "user:" ++ n

/-- The row of a compiled policy: its name, its kind, who is let in, who is
refused, and the required claims, by the rule that the set has under its name. -/
def policyRow (set : PolicySet) (policy : Policy) : List String :=
  match (set.get? policy.name).join, policy.isLocked with
  | some r, false => [policy.name, ruleKind r, joinOrDash r.allowed.toList, joinOrDash (denied r),
      joinOrDash (r.requiredClaims.map Claim.describe)]
  | _, _ => [policy.name, "locked", "-", "-", "-"]

/-- The rows of the compiled policies of a set, in the order of their names. -/
def policyRows (compiled : CompiledPolicies) (set : PolicySet) : List (List String) :=
  compiled.toList.map (policyRow set)

/-- The headings of the table. -/
def policyHeadings : List String := ["Policy", "Kind", "Allow", "Deny", "Claims"]

/-- How many policies there are, in words. -/
def countText (n : Nat) : String :=
  "(" ++ toString n ++ (if n = 1 then " policy" else " policies") ++ ")"

/-- The rows as a table, with their number below. -/
def drawPolicies (rows : List (List String)) : List Line :=
  if rows.isEmpty then [[⟨.muted, "No policies declared."⟩]]
  else
    (Terminal.drawTable policyHeadings rows).map Terminal.plain
    ++ [[⟨.muted, countText rows.length⟩]]

/-- The table of the policies of a set. -/
def policyTable (set : PolicySet) : List Line := drawPolicies (policyRows set.compile set)

/-- The log record of the listing. -/
def listingRecord (set : PolicySet) : LogRecord :=
  ⟨.info, "warden::commands::policies", "Compiled policy set",
    [("policies", .number set.compile.size)]⟩

/-- Lists the declared policies. -/
def policies (stack : Stack) : Report :=
  match stack.load with
  | .error _ => { error := some .notLoaded }
  | .ok settings =>
    match settings.policySet with
    | .error name => { error := some (.clash name) }
    | .ok set => {
        out := policyTable set
        notices := Notice.ofEvents set.compileEvents ++ [.log (listingRecord set)] }

end AccessPolicy.Command
