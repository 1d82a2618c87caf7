/-
Identities that gain claims or roles, and which way that moves access.

A claim can only help to meet what is required. A role can help as well as
harm, since the allowed and the denied names are looked up in the same way:
it helps where somebody is allowed by name, and harms where nobody is.
-/
import AccessPolicy.Identity
import AccessPolicy.Proofs.AllowedNames

namespace AccessPolicy

namespace Identity

variable {i : Identity}

/-! ## The answers of an identity -/

theorem isMemberOf_iff {n : String} :
    i.toPrincipal.isMemberOf n = true ↔ i.userId = some n ∨ n ∈ i.roles := by
  simp [toPrincipal]

theorem mem_claimsOfType {type : String} {c : HeldClaim} :
    c ∈ i.claimsOfType type ↔ c ∈ i.claims ∧ foldCase c.type = foldCase type := by
  simp [claimsOfType]

theorem hasClaim_iff {type value : String} : i.toPrincipal.hasClaim type value = true ↔
    ∃ c ∈ i.claims, foldCase c.type = foldCase type ∧ c.value = value := by
  simp [toPrincipal, mem_claimsOfType, and_assoc]

theorem hasClaimType_iff {type : String} : i.toPrincipal.hasClaimType type = true ↔
    ∃ c ∈ i.claims, foldCase c.type = foldCase type := by
  show (!(i.claimsOfType type).isEmpty) = true ↔ _
  rw [Bool.not_eq_true', List.isEmpty_eq_false_iff_exists_mem]
  simp only [mem_claimsOfType]

/-! ## Adding roles and claims -/

theorem mem_foldl_withRole {roles : List String} {i : Identity} {role : String} :
    role ∈ (roles.foldl Identity.withRole i).roles ↔ role ∈ i.roles ∨ role ∈ roles := by
  induction roles generalizing i with
  | nil => simp
  | cons r roles ih =>
    rw [List.foldl_cons, ih, Identity.withRole, NameSet.mem_insert, List.mem_cons]
    exact ⟨by rintro ((h | h) | h) <;> simp [h], by rintro (h | h | h) <;> simp [h]⟩

/-- Adding roles changes nothing but the roles. -/
theorem foldl_withRole {roles : List String} {i : Identity} :
    roles.foldl Identity.withRole i =
      { i with roles := (roles.foldl Identity.withRole i).roles } := by
  induction roles generalizing i with
  | nil => rfl
  | cons r roles ih =>
    rw [List.foldl_cons, ih]
    rfl

/-- Adding claims changes nothing but the claims, and puts the new ones behind. -/
theorem foldl_withClaim {claims : List HeldClaim} {i : Identity} :
    claims.foldl (fun i c => i.withClaim c.type c.value) i =
      { i with claims := i.claims ++ claims } := by
  induction claims generalizing i with
  | nil => simp
  | cons c claims ih =>
    rw [List.foldl_cons, ih]
    simp [withClaim]

end Identity

/-! ## Access of identities that grow -/

section

variable {i : Identity} {r : Rule}

theorem Claim.Met.append_claims {c : Claim} (h : c.Met i.toPrincipal) (claims : List HeldClaim) :
    c.Met { i with claims := i.claims ++ claims : Identity }.toPrincipal := by
  rcases h with ⟨v, hv, hclaim⟩ | ⟨hempty, htype⟩
  · obtain ⟨held, hmem, heq⟩ := Identity.hasClaim_iff.1 hclaim
    exact .inl ⟨v, hv, Identity.hasClaim_iff.2 ⟨held, List.mem_append_left _ hmem, heq⟩⟩
  · obtain ⟨held, hmem, heq⟩ := Identity.hasClaimType_iff.1 htype
    exact .inr ⟨hempty, Identity.hasClaimType_iff.2 ⟨held, List.mem_append_left _ hmem, heq⟩⟩

namespace Rule

/-- Nobody is shut out for a claim. -/
theorem Grants.append_claims (h : r.Grants i.toPrincipal) (claims : List HeldClaim) :
    r.Grants { i with claims := i.claims ++ claims : Identity }.toPrincipal where
  authenticated := h.authenticated
  allowed := h.allowed
  roles := h.roles
  users := h.users
  claims c hc := (h.claims c hc).append_claims claims

variable {roles : NameSet} (hroles : ∀ role ∈ i.roles, role ∈ roles)
include hroles

theorem isMemberOf_of_roles_subset {n : String} (h : i.toPrincipal.isMemberOf n = true) :
    { i with roles : Identity }.toPrincipal.isMemberOf n = true :=
  Identity.isMemberOf_iff.2 ((Identity.isMemberOf_iff.1 h).imp_right (hroles n))

/-- Where somebody is allowed by name, nobody is shut out for a role. -/
theorem Grants.of_roles_subset (hallows : r.AllowsByName) (h : r.Grants i.toPrincipal) :
    r.Grants { i with roles : Identity }.toPrincipal := by
  obtain ⟨hauthenticated, ⟨n, hn, hmember⟩, hclaims⟩ := (grants_iff_of_allowsByName hallows).1 h
  exact (grants_iff_of_allowsByName hallows).2
    ⟨hauthenticated, ⟨n, hn, isMemberOf_of_roles_subset hroles hmember⟩, hclaims⟩

/-- Where nobody is allowed by name, nobody is let in for a role. -/
theorem Grants.of_roles_superset (hno : ¬ r.AllowsByName)
    (h : r.Grants { i with roles : Identity }.toPrincipal) : r.Grants i.toPrincipal := by
  obtain ⟨hauthenticated, hdenied, hclaims⟩ := (grants_iff_of_not_allowsByName hno).1 h
  refine (grants_iff_of_not_allowsByName hno).2 ⟨hauthenticated, fun n hn => ?_, hclaims⟩
  refine Bool.eq_false_iff.2 fun hmember => ?_
  have hstill := isMemberOf_of_roles_subset hroles hmember
  rw [hdenied n hn] at hstill
  cases hstill

end Rule

end

namespace Policy

/-- **More claims never hurt; more roles help or harm.** Whoever is let in is
let in with further claims as well. Further roles never turn a grant into a
refusal if the rule allows somebody by name, and never turn a refusal into a
grant if it allows nobody. -/
theorem outcome_compile_identity (name : String) (i : Identity) :
    (∀ (entry : Option Rule) (claims : List HeldClaim),
      (compile name entry).outcome i.toPrincipal = .granted →
      (compile name entry).outcome
        (claims.foldl (fun i c => i.withClaim c.type c.value) i).toPrincipal = .granted) ∧
    (∀ (r : Rule) (roles : List String), r.AllowsByName →
      (compile name (some r)).outcome i.toPrincipal = .granted →
      (compile name (some r)).outcome (roles.foldl Identity.withRole i).toPrincipal = .granted) ∧
    (∀ (r : Rule) (roles : List String), ¬ r.AllowsByName →
      (compile name (some r)).outcome i.toPrincipal ≠ .granted →
      (compile name (some r)).outcome (roles.foldl Identity.withRole i).toPrincipal ≠ .granted) := by
  have hsubset : ∀ roles : List String, ∀ role ∈ i.roles,
      role ∈ (roles.foldl Identity.withRole i).roles :=
    fun roles role hrole => Identity.mem_foldl_withRole.2 (.inl hrole)
  simp only [Ne, outcome_compile_eq_granted_iff, Identity.foldl_withClaim]
  refine ⟨fun entry claims h => ?_, fun r roles hallows h => ?_, fun r roles hno h => ?_⟩
  · cases entry with
    | none => exact absurd h (outcome_compile_none_ne_granted name _)
    | some r =>
      rw [outcome_compile_eq_granted_iff] at h ⊢
      exact h.append_claims claims
  · rw [Identity.foldl_withRole]
    exact h.of_roles_subset (hsubset roles) hallows
  · rw [Identity.foldl_withRole]
    exact fun hgrants => h (hgrants.of_roles_superset (hsubset roles) hno)

/-- Nobody is allowed by name, and contractors are denied. -/
def workshop : Rule where
  denyRoles := some (.ofList ["contractor"])

/-- Once analysts are allowed, an analyst may become a contractor; until then,
a contractor does not get in by becoming an analyst. -/
theorem outcome_compile_workshop :
    (compile "workshop" (some (workshop.edit (.allowRole "analyst")))).outcome
      (((Identity.user "ann").withRole "analyst").withRole "contractor").toPrincipal = .granted ∧
    (compile "workshop" (some workshop)).outcome
      (((Identity.user "ann").withRole "contractor").withRole "analyst").toPrincipal ≠ .granted := by
  obtain ⟨-, hkeeps, -⟩ :=
    outcome_compile_identity "workshop" ((Identity.user "ann").withRole "analyst")
  obtain ⟨-, -, hstays⟩ :=
    outcome_compile_identity "workshop" ((Identity.user "ann").withRole "contractor")
  have hallows : (workshop.edit (.allowRole "analyst")).AllowsByName := ⟨"analyst", .inl (by decide)⟩
  have hno : ¬ workshop.AllowsByName := Rule.not_allowsByName_iff.2 ⟨rfl, rfl⟩
  exact ⟨hkeeps _ ["contractor"] hallows (by decide), hstays workshop ["analyst"] hno (by decide)⟩

end Policy

end AccessPolicy
