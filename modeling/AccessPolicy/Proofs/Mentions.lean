/-
A decision depends on nothing but the answers to what its rule mentions: two
principals that cannot be told apart by them get the same outcome, down to the
name or the type that it reports.

Both principals are taken through the evaluation side by side. Every search in
it goes through names or claims of the rule, so it stops at the same element
for both.
-/
import AccessPolicy.Identity
import AccessPolicy.Proofs.AllowedNames
import Mathlib.Data.List.Find

namespace AccessPolicy

/-! ## What a rule asks -/

/-- Both principals answer the questions of a claim alike: for its values if
there are any, and otherwise for its type. -/
structure Claim.AnsweredAlike (c : Claim) (p q : Principal) : Prop where
  values : ∀ v ∈ c.values, p.hasClaim c.type v = q.hasClaim c.type v
  type : c.values = ∅ → p.hasClaimType c.type = q.hasClaimType c.type

namespace Rule

/-- The name is allowed or denied by the rule. -/
def Mentions (r : Rule) (n : String) : Prop := n ∈ r.allowRoles ∨ n ∈ r.allowUsers ∨ r.Denies n

/-- Both principals answer the questions of a rule alike. Nothing is said of
their users and roles, of names that the rule does not mention, or of claims
that it does not require. -/
structure AnsweredAlike (r : Rule) (p q : Principal) : Prop where
  authenticated : p.authenticated = q.authenticated
  members : ∀ n, r.Mentions n → p.isMemberOf n = q.isMemberOf n
  claims : ∀ c ∈ r.requiredClaims, c.AnsweredAlike p q

theorem mentions_of_mem_allowed {r : Rule} {n : String} (h : n ∈ r.allowed) : r.Mentions n := by
  rcases NameSet.mem_union.1 h with hrole | huser
  · exact .inl hrole
  · exact .inr (.inl huser)

end Rule

/-! ## Two evaluations side by side -/

variable {p q : Principal}

theorem Claim.AnsweredAlike.satisfiedBy_eq {c : Claim} (h : c.AnsweredAlike p q) :
    c.satisfiedBy p = c.satisfiedBy q := by
  rw [satisfiedBy, satisfiedBy]
  by_cases hempty : c.values.isEmpty = true
  · rw [if_pos hempty, if_pos hempty, h.type (NameSet.isEmpty_iff.1 hempty)]
  · rw [if_neg hempty, if_neg hempty, Bool.eq_iff_iff, List.any_eq_true, List.any_eq_true]
    exact exists_congr fun v => and_congr_right fun hv => by rw [h.values v hv]

namespace CompiledRule

theorem firstMember_eq_of_forall {names : Option NameSet}
    (h : ∀ s, names = some s → ∀ n ∈ s, p.isMemberOf n = q.isMemberOf n) :
    firstMember (names.map NameSet.toList) p = firstMember (names.map NameSet.toList) q := by
  cases names with
  | none => rfl
  | some s => exact List.find?_congr (h s rfl)

variable {r : Rule} (h : r.AnsweredAlike p q)
include h

theorem any_identities_eq :
    (ofRule r).identities.any p.isMemberOf = (ofRule r).identities.any q.isMemberOf := by
  rw [Bool.eq_iff_iff, List.any_eq_true, List.any_eq_true]
  refine exists_congr fun n => and_congr_right fun hn => ?_
  rw [h.members n (Rule.mentions_of_mem_allowed hn)]

theorem denial_eq : (ofRule r).denial p = (ofRule r).denial q := by
  have hroles : firstMember (ofRule r).denyRoles p = firstMember (ofRule r).denyRoles q :=
    firstMember_eq_of_forall fun s hs n hn => h.members n (.inr (.inr ⟨s, .inl hs, hn⟩))
  have husers : firstMember (ofRule r).denyUsers p = firstMember (ofRule r).denyUsers q :=
    firstMember_eq_of_forall fun s hs n hn => h.members n (.inr (.inr ⟨s, .inr hs, hn⟩))
  rw [denial, denial, hroles, husers]

theorem claimsOutcome_eq : (ofRule r).claimsOutcome p = (ofRule r).claimsOutcome q := by
  have hfind : (ofRule r).claims.find? (fun c => !c.satisfiedBy p) =
      (ofRule r).claims.find? (fun c => !c.satisfiedBy q) :=
    List.find?_congr fun c hc => by rw [(h.claims c hc).satisfiedBy_eq]
  rw [claimsOutcome, claimsOutcome, hfind]

theorem outcome_eq : (ofRule r).outcome p = (ofRule r).outcome q := by
  rw [outcome, outcome, any_identities_eq h, denial_eq h, claimsOutcome_eq h]

end CompiledRule

namespace Policy

/-- **A decision depends only on what its rule mentions.** Principals of any
kind that answer the questions of a rule alike are decided upon alike, with
the same reason. -/
theorem evaluate_of_answeredAlike (name : String) {r : Rule} (h : r.AnsweredAlike p q) :
    (compile name (some r)).evaluate p = (compile name (some r)).evaluate q := by
  have houtcome : (compile name (some r)).outcome p = (compile name (some r)).outcome q := by
    cases ha : p.authenticated with
    | false =>
      have hb : q.authenticated = false := h.authenticated.symm.trans ha
      rw [outcome_of_verdict name (.unauthenticated ha),
        outcome_of_verdict name (.unauthenticated hb)]
    | true =>
      have hb : q.authenticated = true := h.authenticated.symm.trans ha
      rw [outcome_compile_some ha, outcome_compile_some hb, CompiledRule.outcome_eq h]
  rw [evaluate, evaluate, houtcome]

/-- No contractors; a claim on the department, and a badge of any kind. -/
def laboratory : Rule where
  denyRoles := some (.ofList ["contractor"])
  allowClaim := some (.ofValues "dept" ["eng", "ops"])
  allowClaims := some [.anyValue "badge"]

/-- An analyst of the department, who is nobody's contractor. -/
def analyst : Identity := ((Identity.user "alice").withRole "analyst").withClaim "dept" "eng"

/-- A host that claims every role, has no user, and decides for itself for
whom a name stands. -/
def robot : Principal where
  authenticated := true
  userId := none
  hasRole _ := true
  hasClaim type value := type == "dept" && value == "eng"
  hasClaimType _ := false
  isMemberOf _ := false

theorem answeredAlike_laboratory : laboratory.AnsweredAlike analyst.toPrincipal robot where
  authenticated := rfl
  members := by
    rintro n (hn | hn | ⟨s, hs | hs, hn⟩)
    · cases hn
    · cases hn
    · cases hs
      rw [NameSet.mem_ofList, List.mem_singleton] at hn
      subst hn
      decide
    · cases hs
  claims := by
    intro c hc
    have hc' : c = .ofValues "dept" ["eng", "ops"] ∨ c = .anyValue "badge" := by
      simpa [laboratory, Rule.requiredClaims] using hc
    rcases hc' with rfl | rfl
    · refine ⟨fun v hv => ?_, fun hempty => by cases hempty⟩
      have hv' : v = "eng" ∨ v = "ops" := by simpa [Claim.ofValues] using hv
      rcases hv' with rfl | rfl <;> decide +kernel
    · exact ⟨nofun, fun _ => by decide +kernel⟩

/-- Who shares neither user nor roles with the analyst, but answers like them,
lacks the badge as well. -/
theorem evaluate_laboratory :
    laboratory.AnsweredAlike analyst.toPrincipal robot ∧
    (compile "lab" (some laboratory)).evaluate analyst.toPrincipal =
      (compile "lab" (some laboratory)).evaluate robot ∧
    (compile "lab" (some laboratory)).evaluate robot = ⟨"lab", .missingClaim "badge"⟩ :=
  ⟨answeredAlike_laboratory, evaluate_of_answeredAlike "lab" answeredAlike_laboratory, by decide⟩

end Policy

end AccessPolicy
