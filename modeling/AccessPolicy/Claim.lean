/-
Required claims: a type, and the values of it that are accepted.
-/
import AccessPolicy.Principal
import AccessPolicy.Names.Set

namespace AccessPolicy

/-- A requirement on the claims of a principal. Without values it asks only
for some claim of the type. -/
structure Claim where
  type : String
  values : NameSet := ∅
deriving DecidableEq

namespace Claim

instance : Inhabited Claim := ⟨{ type := "" }⟩

/-- The requirement of any one of the listed values. -/
def ofValues (type : String) (values : List String) : Claim := ⟨type, .ofList values⟩

/-- The requirement of the type alone. -/
def anyValue (type : String) : Claim := { type }

/-- Whether the principal meets the requirement. -/
def satisfiedBy (c : Claim) (p : Principal) : Bool :=
  if c.values.isEmpty then p.hasClaimType c.type
  else c.values.toList.any fun v => p.hasClaim c.type v

/-- The requirement as it is shown to people. -/
def describe (c : Claim) : String :=
  c.type ++ "=" ++ if c.values.isEmpty then "*" else "|".intercalate c.values.toList

end Claim

end AccessPolicy
