/-
The questions that a policy asks of whoever wants access.
-/

namespace AccessPolicy

/-- Whoever wants access, as the answers to a policy's questions. -/
structure Principal where
  /-- Whether the identity was established. -/
  authenticated : Bool
  /-- The user, if one is known. -/
  userId : Option String
  /-- Whether the role is held. -/
  hasRole : String → Bool
  /-- Whether a claim of the type has exactly the value. -/
  hasClaim : String → String → Bool
  /-- Whether there is a claim of the type. -/
  hasClaimType : String → Bool
  /-- Whether the name stands for this principal. Roles and users share one
  name space: unless a host says otherwise, a name stands for the user so
  called and for everyone who holds the role so called. -/
  isMemberOf : String → Bool := fun name => userId == some name || hasRole name

end AccessPolicy
