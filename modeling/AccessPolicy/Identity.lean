/-
Identities: principals given by their data.

The types of claims are compared without regard to the case of ASCII letters;
claim values, roles and users are compared exactly.
-/
import AccessPolicy.Principal
import AccessPolicy.Names.Set

namespace AccessPolicy

/-- A claim that an identity carries. -/
structure HeldClaim where
  type : String
  value : String
deriving DecidableEq, Inhabited

/-- A principal given by its data. Claims keep their order and repetitions. -/
structure Identity where
  userId : Option String := none
  authenticated : Bool := false
  roles : NameSet := ∅
  claims : List HeldClaim := []
deriving DecidableEq, Inhabited

/-- The text with its ASCII letters in lower case. -/
def foldCase (s : String) : String := s.map Char.toLower

namespace Identity

/-- An established user. -/
def user (name : String) : Identity := { userId := some name, authenticated := true }

/-- An established identity without a user. -/
def service : Identity := { authenticated := true }

/-- Nobody in particular. -/
def anonymous : Identity := {}

/-- The identity with one more role. -/
def withRole (i : Identity) (role : String) : Identity := { i with roles := i.roles.insert role }

/-- The identity with one more claim. -/
def withClaim (i : Identity) (type value : String) : Identity :=
  { i with claims := i.claims ++ [⟨type, value⟩] }

/-- The claims of a type. -/
def claimsOfType (i : Identity) (type : String) : List HeldClaim :=
  i.claims.filter fun c => foldCase c.type == foldCase type

/-- The identity's answers. -/
def toPrincipal (i : Identity) : Principal where
  authenticated := i.authenticated
  userId := i.userId
  hasRole role := i.roles.contains role
  hasClaim type value := (i.claimsOfType type).any fun c => c.value == value
  hasClaimType type := !(i.claimsOfType type).isEmpty

instance : Coe Identity Principal := ⟨toPrincipal⟩

end Identity

end AccessPolicy
