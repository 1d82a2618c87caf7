/-
Claims are judged by their content: which pairs of a type and a value an
identity holds, where types that differ only in the case of ASCII letters are
one type.

Identities of the same content give the same answers to all questions
(`Identity.SameContent.toPrincipal_eq`), so no policy tells them apart. A rule
whose claims are spelled in other letters stops at the same place
(`CompiledRule.outcome_respelled`), and reports the type as it spells it.
-/
import AccessPolicy.Proofs.Identities
import Mathlib.Data.List.Forall2

namespace AccessPolicy

/-! ## Text up to the case of ASCII letters -/

namespace Text

/-- The characters are the same, or one ASCII letter in its two cases. -/
def SameLetter (c d : Char) : Prop :=
  c = d ∨ (c.isUpper = true ∧ d.toNat = c.toNat + 32) ∨ (d.isUpper = true ∧ c.toNat = d.toNat + 32)

/-- The texts are the same, letter by letter. -/
def SameWord (s t : String) : Prop := List.Forall₂ SameLetter s.toList t.toList

theorem isUpper_iff {c : Char} : c.isUpper = true ↔ 65 ≤ c.toNat ∧ c.toNat ≤ 90 := by
  show decide (c.val ≥ 'A'.val ∧ c.val ≤ 'Z'.val) = true ↔ _
  rw [decide_eq_true_eq, ge_iff_le, UInt32.le_iff_toNat_le, UInt32.le_iff_toNat_le]
  rfl

theorem toNat_toLower (c : Char) :
    c.toLower.toNat = if c.isUpper then c.toNat + 32 else c.toNat := by
  show (if _ : c.val ≥ 'A'.val ∧ c.val ≤ 'Z'.val then ⟨c.val + ('a'.val - 'A'.val), _⟩ else c : Char).toNat
    = if decide (c.val ≥ 'A'.val ∧ c.val ≤ 'Z'.val) then c.toNat + 32 else c.toNat
  split
  · rename_i hrange
    have hbound : c.toNat ≤ 90 := (isUpper_iff.1 (decide_eq_true hrange)).2
    rw [decide_eq_true hrange, if_pos rfl]
    show (c.val + 32).toNat = c.val.toNat + 32
    rw [UInt32.toNat_add]
    exact Nat.mod_eq_of_lt (by simp; omega)
  · rename_i hrange
    rw [decide_eq_false hrange]
    rfl

theorem toLower_eq_toLower_iff {c d : Char} : c.toLower = d.toLower ↔ SameLetter c d := by
  rw [SameLetter, ← Char.toNat_inj, ← Char.toNat_inj, toNat_toLower, toNat_toLower]
  simp only [isUpper_iff]
  split <;> split <;> omega

theorem foldCase_eq_foldCase_iff {s t : String} : foldCase s = foldCase t ↔ SameWord s t := by
  rw [foldCase, foldCase, ← String.toList_inj, String.toList_map, String.toList_map,
    ← List.forall₂_eq_eq_eq, List.forall₂_map_left_iff, List.forall₂_map_right_iff]
  simp only [toLower_eq_toLower_iff, SameWord]

end Text

/-! ## Identities of one content -/

namespace Identity

/-- What the identity holds: pairs of a type, in lower case, and a value. -/
def contents (i : Identity) : List (String × String) :=
  i.claims.map fun c => (foldCase c.type, c.value)

/-- The identities are the same, but for the order, the repetitions and the
spelling of their claims. -/
structure SameContent (i j : Identity) : Prop where
  authenticated : i.authenticated = j.authenticated
  userId : i.userId = j.userId
  roles : i.roles = j.roles
  contents : ∀ e, e ∈ i.contents ↔ e ∈ j.contents

variable {i j : Identity}

theorem mem_contents {e : String × String} :
    e ∈ i.contents ↔ ∃ c ∈ i.claims, foldCase c.type = e.1 ∧ c.value = e.2 := by
  simp [contents, Prod.ext_iff]

theorem hasClaim_iff_mem_contents {type value : String} :
    i.toPrincipal.hasClaim type value = true ↔ (foldCase type, value) ∈ i.contents := by
  rw [hasClaim_iff, mem_contents]

theorem hasClaimType_iff_mem_contents {type : String} :
    i.toPrincipal.hasClaimType type = true ↔ ∃ value, (foldCase type, value) ∈ i.contents := by
  simp only [hasClaimType_iff, mem_contents]
  constructor
  · rintro ⟨c, hc, htype⟩
    exact ⟨c.value, c, hc, htype, rfl⟩
  · rintro ⟨-, c, hc, htype, -⟩
    exact ⟨c, hc, htype⟩

/-- Identities of one content answer every question alike. -/
theorem SameContent.toPrincipal_eq (h : i.SameContent j) : i.toPrincipal = j.toPrincipal := by
  have hclaim : i.toPrincipal.hasClaim = j.toPrincipal.hasClaim := by
    funext type value
    rw [Bool.eq_iff_iff, hasClaim_iff_mem_contents, hasClaim_iff_mem_contents, h.contents]
  have htype : i.toPrincipal.hasClaimType = j.toPrincipal.hasClaimType := by
    funext type
    rw [Bool.eq_iff_iff, hasClaimType_iff_mem_contents, hasClaimType_iff_mem_contents]
    simp only [h.contents]
  have hmember : i.toPrincipal.isMemberOf = j.toPrincipal.isMemberOf := by
    funext name
    rw [Bool.eq_iff_iff, isMemberOf_iff, isMemberOf_iff, h.userId, h.roles]
  have hrole : i.toPrincipal.hasRole = j.toPrincipal.hasRole := by
    funext role
    simp only [toPrincipal, h.roles]
  calc i.toPrincipal
      = ⟨i.authenticated, i.userId, i.toPrincipal.hasRole, i.toPrincipal.hasClaim,
          i.toPrincipal.hasClaimType, i.toPrincipal.isMemberOf⟩ := rfl
    _ = j.toPrincipal := by rw [h.authenticated, h.userId, hrole, hclaim, htype, hmember]; rfl

/-! ### Building identities step by step -/

/-- One step in building an identity. -/
inductive Step where
  | role (name : String)
  | claim (type value : String)
deriving DecidableEq

/-- The step with the type of a claim in lower case. -/
def Step.folded : Step → Step
  | role name => role name
  | claim type value => claim (foldCase type) value

/-- The identity after one step. -/
def step (i : Identity) : Step → Identity
  | .role name => i.withRole name
  | .claim type value => i.withClaim type value

/-- The identity after a sequence of steps. -/
def build (i : Identity) (steps : List Step) : Identity := steps.foldl step i

/-- What steps do to an identity: nothing but to add the roles and the claims
that they name. -/
structure Built (i : Identity) (steps : List Step) (j : Identity) : Prop where
  authenticated : j.authenticated = i.authenticated
  userId : j.userId = i.userId
  roles : ∀ name, name ∈ j.roles ↔ name ∈ i.roles ∨ .role name ∈ steps.map Step.folded
  contents : ∀ e, e ∈ j.contents ↔ e ∈ i.contents ∨ .claim e.1 e.2 ∈ steps.map Step.folded

theorem built_step (i : Identity) (s : Step) : Built i [s] (i.step s) := by
  cases s with
  | role name =>
    refine ⟨rfl, rfl, fun n => ?_, fun e => ?_⟩
    · simp [step, withRole, Step.folded, or_comm]
    · simp [step, withRole, contents, Step.folded]
  | claim type value =>
    refine ⟨rfl, rfl, fun n => ?_, fun e => ?_⟩
    · simp [step, withClaim, Step.folded]
    · simp [step, withClaim, contents, Step.folded, Prod.ext_iff]

theorem built_build (steps : List Step) (i : Identity) : Built i steps (i.build steps) := by
  induction steps generalizing i with
  | nil => exact ⟨rfl, rfl, by simp [build], by simp [build]⟩
  | cons s steps ih =>
    have hfirst := built_step i s
    have hrest : Built (i.step s) steps (i.build (s :: steps)) := ih (i.step s)
    refine ⟨hrest.authenticated.trans hfirst.authenticated, hrest.userId.trans hfirst.userId,
      fun n => ?_, fun e => ?_⟩
    · rw [hrest.roles, hfirst.roles, or_assoc]
      simp
    · rw [hrest.contents, hfirst.contents, or_assoc]
      simp

/-- Neither the order nor the repetitions of the steps matter, nor the spelling
of the types in them. -/
theorem sameContent_build {steps steps' : List Step}
    (h : ∀ s, s ∈ steps.map Step.folded ↔ s ∈ steps'.map Step.folded) (i : Identity) :
    (i.build steps).SameContent (i.build steps') := by
  have hleft := built_build steps i
  have hright := built_build steps' i
  refine ⟨hleft.authenticated.trans hright.authenticated.symm,
    hleft.userId.trans hright.userId.symm, NameSet.ext fun n => ?_, fun e => ?_⟩
  · rw [hleft.roles, hright.roles, h]
  · rw [hleft.contents, hright.contents, h]

end Identity

theorem Claim.satisfiedBy_identity_iff {c : Claim} {i : Identity} :
    c.satisfiedBy i.toPrincipal = true ↔
      ∃ held ∈ i.claims, Text.SameWord held.type c.type ∧ (c.values = ∅ ∨ held.value ∈ c.values) := by
  simp only [Claim.satisfiedBy_iff, Claim.Met, Identity.hasClaim_iff, Identity.hasClaimType_iff,
    ← Text.foldCase_eq_foldCase_iff]
  constructor
  · rintro (⟨v, hv, held, hheld, htype, rfl⟩ | ⟨hempty, held, hheld, htype⟩)
    · exact ⟨held, hheld, htype, .inr hv⟩
    · exact ⟨held, hheld, htype, .inl hempty⟩
  · rintro ⟨held, hheld, htype, hempty | hvalue⟩
    · exact .inr ⟨hempty, held, hheld, htype⟩
    · exact .inl ⟨held.value, hvalue, held, hheld, htype, rfl⟩

/-! ## Rules in other letters -/

/-- The claims require the same, with the type in other letters. -/
structure Claim.Respelled (c d : Claim) : Prop where
  type : Text.SameWord c.type d.type
  values : c.values = d.values

/-- The rules are the same, but for the letters of the required types. -/
structure Rule.Respelled (r r' : Rule) : Prop where
  allowRoles : r.allowRoles = r'.allowRoles
  allowUsers : r.allowUsers = r'.allowUsers
  denyRoles : r.denyRoles = r'.denyRoles
  denyUsers : r.denyUsers = r'.denyUsers
  claims : List.Forall₂ Claim.Respelled r.requiredClaims r'.requiredClaims

/-- The outcomes are the same, but for the letters of a type that is missing. -/
inductive Outcome.Respelled : Outcome → Outcome → Prop where
  | same (o : Outcome) : Respelled o o
  | missingClaim {s t : String} : Text.SameWord s t →
      Respelled (.missingClaim s) (.missingClaim t)

variable {r r' : Rule} {i : Identity}

theorem Claim.Respelled.satisfiedBy_eq {c d : Claim} (h : c.Respelled d) :
    c.satisfiedBy i.toPrincipal = d.satisfiedBy i.toPrincipal := by
  rw [Bool.eq_iff_iff, satisfiedBy_identity_iff, satisfiedBy_identity_iff]
  simp only [← Text.foldCase_eq_foldCase_iff, Text.foldCase_eq_foldCase_iff.2 h.type, h.values]

/-- The first claim that is not met is the same one. -/
theorem Claim.find?_respelled {cs ds : List Claim} (h : List.Forall₂ Claim.Respelled cs ds) :
    Option.Rel Claim.Respelled (cs.find? fun c => !c.satisfiedBy i.toPrincipal)
      (ds.find? fun c => !c.satisfiedBy i.toPrincipal) := by
  induction h with
  | nil => exact .none
  | cons hc _ ih =>
    rw [List.find?_cons, List.find?_cons, hc.satisfiedBy_eq]
    split
    · exact .some hc
    · exact ih

namespace CompiledRule

theorem claimsOutcome_respelled (h : r.Respelled r') :
    ((ofRule r).claimsOutcome i.toPrincipal).Respelled ((ofRule r').claimsOutcome i.toPrincipal) := by
  have hfirst : Option.Rel Claim.Respelled
      ((ofRule r).claims.find? fun c => !c.satisfiedBy i.toPrincipal)
      ((ofRule r').claims.find? fun c => !c.satisfiedBy i.toPrincipal) :=
    Claim.find?_respelled h.claims
  rw [claimsOutcome, claimsOutcome]
  generalize (ofRule r).claims.find? _ = first at hfirst
  generalize (ofRule r').claims.find? _ = first' at hfirst
  cases hfirst with
  | none => exact .same _
  | some hc => exact .missingClaim hc.type

theorem outcome_respelled (h : r.Respelled r') :
    ((ofRule r).outcome i.toPrincipal).Respelled ((ofRule r').outcome i.toPrincipal) := by
  have hidentities : (ofRule r').identities = (ofRule r).identities := by
    simp only [ofRule, Rule.allowed, h.allowRoles, h.allowUsers]
  have hdenial : (ofRule r').denial i.toPrincipal = (ofRule r).denial i.toPrincipal := by
    simp only [denial, ofRule, h.denyRoles, h.denyUsers]
  rw [outcome, outcome, hidentities, hdenial]
  -- Up to the claims both rules go the same way.
  split
  · exact claimsOutcome_respelled h
  · split
    · exact .same _
    · cases (ofRule r).denial i.toPrincipal with
      | some refusal => exact .same refusal
      | none => exact claimsOutcome_respelled h

end CompiledRule

namespace Policy

/-- **Claims are judged by their content.** A claim is met by whoever holds its
type, in whatever case its ASCII letters are, with one of its values, or with
any if it lists none. So no policy tells identities apart that differ in the
order, the repetitions or the spelling of their claims, or in how they were
built; and a rule with its types in other letters decides alike, but for the
letters of a type that is missing. -/
theorem outcome_of_contents :
    (∀ (c : Claim) (i : Identity), c.satisfiedBy i.toPrincipal = true ↔
      ∃ held ∈ i.claims, Text.SameWord held.type c.type ∧ (c.values = ∅ ∨ held.value ∈ c.values)) ∧
    (∀ (policy : Policy) (i j : Identity), i.SameContent j →
      policy.outcome i.toPrincipal = policy.outcome j.toPrincipal) ∧
    (∀ (policy : Policy) (i : Identity) (steps steps' : List Identity.Step),
      (∀ s, s ∈ steps.map Identity.Step.folded ↔ s ∈ steps'.map Identity.Step.folded) →
      policy.outcome (i.build steps).toPrincipal = policy.outcome (i.build steps').toPrincipal) ∧
    (∀ (name : String) (r r' : Rule) (i : Identity), r.Respelled r' →
      ((compile name (some r)).outcome i.toPrincipal).Respelled
        ((compile name (some r')).outcome i.toPrincipal)) := by
  refine ⟨fun c i => Claim.satisfiedBy_identity_iff, fun policy i j h => ?_,
    fun policy i steps steps' h => ?_, fun name r r' i h => ?_⟩
  · rw [h.toPrincipal_eq]
  · rw [(Identity.sameContent_build h i).toPrincipal_eq]
  · cases ha : i.authenticated with
    | false =>
      rw [outcome_of_verdict name (.unauthenticated ha), outcome_of_verdict name (.unauthenticated ha)]
      exact .same _
    | true =>
      rw [outcome_compile_some ha, outcome_compile_some ha]
      exact CompiledRule.outcome_respelled h

/-- A claim on the department, and a badge of any kind, with the types spelled
in the given letters. -/
def clinic (dept badge : String) : Rule where
  allowClaim := some (.ofValues dept ["eng", "ops"])
  allowClaims := some [.anyValue badge]

theorem respelled_clinic {dept dept' badge badge' : String} (hdept : Text.SameWord dept dept')
    (hbadge : Text.SameWord badge badge') :
    (clinic dept badge).Respelled (clinic dept' badge') where
  allowRoles := rfl
  allowUsers := rfl
  denyRoles := rfl
  denyUsers := rfl
  claims := .cons ⟨hdept, rfl⟩ (.cons ⟨hbadge, rfl⟩ .nil)

/-- Claims as they come in, with repetitions. -/
def asIssued : List Identity.Step :=
  [.claim "Dept" "eng", .role "nurse", .claim "mfa" "true", .claim "dept" "eng"]

/-- The same claims put in order. -/
def inOrder : List Identity.Step := [.role "nurse", .claim "dept" "eng", .claim "MFA" "true"]

/-- One person's claims are judged alike in whatever way they came together,
and by the rule in capitals too. -/
theorem outcome_of_contents_clinic :
    ((Identity.user "ann").build asIssued).SameContent ((Identity.user "ann").build inOrder) ∧
    (compile "clinic" (some (clinic "dept" "badge"))).outcome
        ((Identity.user "ann").build asIssued).toPrincipal =
      (compile "clinic" (some (clinic "dept" "badge"))).outcome
        ((Identity.user "ann").build inOrder).toPrincipal ∧
    ((compile "clinic" (some (clinic "dept" "badge"))).outcome
        ((Identity.user "ann").build inOrder).toPrincipal).Respelled
      ((compile "clinic" (some (clinic "DEPT" "Badge"))).outcome
        ((Identity.user "ann").build inOrder).toPrincipal) := by
  obtain ⟨-, hcontent, -, hrespelled⟩ := outcome_of_contents
  have hsteps : ∀ s, s ∈ asIssued.map Identity.Step.folded ↔ s ∈ inOrder.map Identity.Step.folded := by
    have hissued : asIssued.map Identity.Step.folded =
        [.claim "dept" "eng", .role "nurse", .claim "mfa" "true", .claim "dept" "eng"] := by
      decide +kernel
    have hordered : inOrder.map Identity.Step.folded =
        [.role "nurse", .claim "dept" "eng", .claim "mfa" "true"] := by decide +kernel
    intro s
    rw [hissued, hordered]
    simp only [List.mem_cons, List.not_mem_nil, or_false]
    tauto
  have hdept : Text.SameWord "dept" "DEPT" := by
    have hlower : foldCase "dept" = "dept" := by decide +kernel
    have hupper : foldCase "DEPT" = "dept" := by decide +kernel
    exact Text.foldCase_eq_foldCase_iff.1 (hlower.trans hupper.symm)
  have hbadge : Text.SameWord "badge" "Badge" := by
    have hlower : foldCase "badge" = "badge" := by decide +kernel
    have hupper : foldCase "Badge" = "badge" := by decide +kernel
    exact Text.foldCase_eq_foldCase_iff.1 (hlower.trans hupper.symm)
  have hsame := Identity.sameContent_build hsteps (Identity.user "ann")
  exact ⟨hsame, hcontent _ _ _ hsame, hrespelled _ _ _ _ (respelled_clinic hdept hbadge)⟩

end Policy

end AccessPolicy
