/-
Rules that are built from the same steps in different orders.

A step works on one field of the rule, so what a sequence comes to can be read
off field by field (`field_edits`). Three kinds of fields differ in what the
order does to them. The order in which names are allowed or denied leaves no
trace. Of the single required claims the last one stays. The listed claims
stay in the order in which they were added. So a rearrangement that keeps the
order of the single required claims gives the same rule up to the order of the
list (`edits_perm`), and that order decides no more than which missing claim
is reported (`CompiledRule.outcome_alike`).
-/
import AccessPolicy.Identity
import AccessPolicy.Proofs.Verdict

namespace AccessPolicy

/-! ## What a step does -/

namespace Rule.Edit

/-- Where in a rule a step puts a name. -/
inductive Target where
  | allowRoles
  | allowUsers
  | denyRoles
  | denyUsers

/-- The step allows or denies a name. -/
def Names : Edit → Prop
  | allowRole _ | allowUser _ | denyRole _ | denyUser _ => True
  | requireClaim _ | alsoRequireClaim _ => False

/-- The name that a step puts into a field. -/
def name? : Target → Edit → Option String
  | .allowRoles, allowRole n => some n
  | .allowUsers, allowUser n => some n
  | .denyRoles, denyRole n => some n
  | .denyUsers, denyUser n => some n
  | _, _ => none

/-- The claim that a step makes the single required one. -/
def required? : Edit → Option Claim
  | requireClaim c => some c
  | _ => none

/-- The claim that a step adds to the list. -/
def listed? : Edit → Option Claim
  | alsoRequireClaim c => some c
  | _ => none

theorem Names.required? {e : Edit} (h : e.Names) : e.required? = none := by
  cases e with
  | requireClaim _ => exact h.elim
  | _ => rfl

theorem Names.listed? {e : Edit} (h : e.Names) : e.listed? = none := by
  cases e with
  | alsoRequireClaim _ => exact h.elim
  | _ => rfl

end Rule.Edit

/-- A list of denied names with one more name. -/
def NameSet.deny (names : Option NameSet) (n : String) : Option NameSet :=
  some ((names.getD ∅).insert n)

theorem NameSet.deny_comm (names : Option NameSet) (m n : String) :
    deny (deny names m) n = deny (deny names n) m :=
  congrArg some (insert_comm _ m n)

theorem NameSet.deny_deny_self (names : Option NameSet) (n : String) :
    deny (deny names n) n = deny names n :=
  congrArg some (insert_insert_self _ n)

/-! ## What a sequence of steps does -/

namespace Rule

theorem edits_concat (r : Rule) (steps : List Edit) (e : Edit) :
    r.edits (steps ++ [e]) = (r.edits steps).edit e := List.foldl_append

section Fields

variable {α β : Type} {field : Rule → α} (value? : Edit → Option β) {put : α → β → α}

/-- A field that each step changes by a value of its own, if at all, becomes
what the values of the steps make of it, in their order. -/
theorem field_edits (step : ∀ r e, field (r.edit e) = (value? e).elim (field r) (put (field r)))
    (r : Rule) (steps : List Edit) :
    field (r.edits steps) = (steps.filterMap value?).foldl put (field r) := by
  induction steps generalizing r with
  | nil => rfl
  | cons e steps ih =>
    show field ((r.edit e).edits steps) = _
    rw [ih, step, List.filterMap_cons]
    cases value? e <;> rfl

/-- If the values can be put in any order, so can the steps. -/
theorem field_edits_perm
    (step : ∀ r e, field (r.edit e) = (value? e).elim (field r) (put (field r)))
    (comm : ∀ a x y, put (put a x) y = put (put a y) x) (r : Rule) {steps steps' : List Edit}
    (h : steps.Perm steps') : field (r.edits steps) = field (r.edits steps') := by
  rw [field_edits value? step, field_edits value? step]
  exact (h.filterMap value?).foldl_eq' (fun x _ y _ a => comm a x y) (field r)

end Fields

variable (r : Rule) (steps : List Edit)

theorem allowClaim_edits :
    (r.edits steps).allowClaim =
      (steps.filterMap Edit.required?).foldl (fun _ c => some c) r.allowClaim :=
  field_edits Edit.required? (by intro r e; cases e <;> rfl) r steps

theorem allowClaims_edits :
    (r.edits steps).allowClaims =
      (steps.filterMap Edit.listed?).foldl (fun l c => some (l.getD [] ++ [c])) r.allowClaims :=
  field_edits Edit.listed? (by intro r e; cases e <;> rfl) r steps

theorem getD_foldl_append (l : Option (List Claim)) (claims : List Claim) :
    (claims.foldl (fun l c => some (l.getD [] ++ [c])) l).getD [] = l.getD [] ++ claims := by
  induction claims generalizing l with
  | nil => exact (List.append_nil _).symm
  | cons c claims ih =>
    rw [List.foldl_cons, ih]
    exact List.append_assoc ..

variable {steps} {steps' : List Edit} (h : steps.Perm steps')
include h

/-- Steps in another order that keeps the order of the single required claims
give the same rule, up to the list of further claims. -/
theorem edits_perm (hrequired : steps.filterMap Edit.required? = steps'.filterMap Edit.required?) :
    r.edits steps' = { r.edits steps with allowClaims := (r.edits steps').allowClaims } := by
  have hroles : (r.edits steps).allowRoles = (r.edits steps').allowRoles :=
    field_edits_perm (Edit.name? .allowRoles) (by intro r e; cases e <;> rfl)
      NameSet.insert_comm r h
  have husers : (r.edits steps).allowUsers = (r.edits steps').allowUsers :=
    field_edits_perm (Edit.name? .allowUsers) (by intro r e; cases e <;> rfl)
      NameSet.insert_comm r h
  have hdenyRoles : (r.edits steps).denyRoles = (r.edits steps').denyRoles :=
    field_edits_perm (Edit.name? .denyRoles) (by intro r e; cases e <;> rfl)
      NameSet.deny_comm r h
  have hdenyUsers : (r.edits steps).denyUsers = (r.edits steps').denyUsers :=
    field_edits_perm (Edit.name? .denyUsers) (by intro r e; cases e <;> rfl)
      NameSet.deny_comm r h
  have hclaim : (r.edits steps).allowClaim = (r.edits steps').allowClaim := by
    rw [allowClaim_edits, allowClaim_edits, hrequired]
  show r.edits steps' = Rule.mk (r.edits steps).allowRoles (r.edits steps).allowUsers
    (r.edits steps).denyRoles (r.edits steps).denyUsers (r.edits steps).allowClaim
    (r.edits steps').allowClaims
  rw [hroles, husers, hdenyRoles, hdenyUsers, hclaim]

/-- If the order of the listed claims is kept as well, the rules are equal. -/
theorem edits_perm_eq
    (hrequired : steps.filterMap Edit.required? = steps'.filterMap Edit.required?)
    (hlisted : steps.filterMap Edit.listed? = steps'.filterMap Edit.listed?) :
    r.edits steps = r.edits steps' := by
  rw [edits_perm r h hrequired, allowClaims_edits, ← hlisted, ← allowClaims_edits]

/-- The listed claims are the same ones, whatever the order of the steps. -/
theorem allowClaims_edits_perm :
    ((r.edits steps).allowClaims.getD []).Perm ((r.edits steps').allowClaims.getD []) := by
  rw [allowClaims_edits, allowClaims_edits, getD_foldl_append, getD_foldl_append]
  exact (h.filterMap Edit.listed?).append_left _

omit h
variable {r} {e : Edit}

/-! ### Repeated names -/

theorem Edit.Names.edit_edit_self (he : e.Names) : (r.edit e).edit e = r.edit e := by
  cases e with
  | allowRole n => exact congrArg (fun s => { r with allowRoles := s }) (NameSet.insert_insert_self _ n)
  | allowUser n => exact congrArg (fun s => { r with allowUsers := s }) (NameSet.insert_insert_self _ n)
  | denyRole n => exact congrArg (fun s => { r with denyRoles := s }) (NameSet.deny_deny_self _ n)
  | denyUser n => exact congrArg (fun s => { r with denyUsers := s }) (NameSet.deny_deny_self _ n)
  | requireClaim _ => exact he.elim
  | alsoRequireClaim _ => exact he.elim

/-- A name may as well be allowed or denied at the end. -/
theorem Edit.Names.edits_middle (he : e.Names) (before after : List Edit) :
    r.edits (before ++ e :: after) = (r.edits (before ++ after)).edit e := by
  have hperm : (before ++ e :: after).Perm (before ++ after ++ [e]) :=
    List.perm_middle.trans (List.perm_append_singleton e _).symm
  rw [← edits_concat]
  refine edits_perm_eq r hperm ?_ ?_
  · simp [he.required?]
  · simp [he.listed?]

/-- To allow or deny a name once more changes nothing. -/
theorem Edit.Names.edits_again (he : e.Names) {before after : List Edit} (h : e ∈ before ++ after) :
    r.edits (before ++ e :: after) = r.edits (before ++ after) := by
  obtain ⟨first, rest, hsplit⟩ := List.append_of_mem h
  -- Both steps are put off to the end, where the second finds its work done.
  rw [he.edits_middle, hsplit, he.edits_middle, he.edit_edit_self]

end Rule

/-! ## What a policy says -/

/-- The outcomes are the same, up to which of the claims is reported as missing. -/
inductive Outcome.Alike : Outcome → Outcome → Prop where
  | refl (o : Outcome) : Alike o o
  | missingClaim (type type' : String) : Alike (.missingClaim type) (.missingClaim type')

namespace CompiledRule

/-- In whatever order claims are looked at, one is missing or none is. -/
theorem claimsOutcome_alike {c c' : CompiledRule} (h : c.claims.Perm c'.claims) (p : Principal) :
    (c.claimsOutcome p).Alike (c'.claimsOutcome p) := by
  have hnone : c.claims.find? (fun c => !c.satisfiedBy p) = none ↔
      c'.claims.find? (fun c => !c.satisfiedBy p) = none := by
    simp only [List.find?_eq_none, h.mem_iff]
  rw [claimsOutcome, claimsOutcome]
  cases hfirst : c.claims.find? fun c => !c.satisfiedBy p with
  | none =>
    rw [hnone.1 hfirst]
    exact .refl _
  | some missing =>
    cases hfirst' : c'.claims.find? fun c => !c.satisfiedBy p with
    | none =>
      rw [hnone.2 hfirst'] at hfirst
      cases hfirst
    | some missing' => exact .missingClaim ..

theorem outcome_alike (c : CompiledRule) {claims claims' : List Claim} (h : claims.Perm claims')
    (p : Principal) :
    ({ c with claims }.outcome p).Alike ({ c with claims := claims' }.outcome p) := by
  have hclaims : ({ c with claims }.claimsOutcome p).Alike
      ({ c with claims := claims' }.claimsOutcome p) := claimsOutcome_alike h p
  have hdenial : { c with claims }.denial p = { c with claims := claims' }.denial p := rfl
  rw [outcome, outcome]
  by_cases hmember : c.identities.any p.isMemberOf = true
  · rw [if_pos hmember, if_pos hmember]
    exact hclaims
  · rw [if_neg hmember, if_neg hmember]
    by_cases hallows : (!c.identities.isEmpty) = true
    · rw [if_pos hallows, if_pos hallows]
      exact .refl _
    · rw [if_neg hallows, if_neg hallows, hdenial]
      cases { c with claims := claims' }.denial p with
      | some refusal => exact .refl refusal
      | none => exact hclaims

end CompiledRule

namespace Policy

theorem outcome_compile_alike (name : String) (r : Rule) {claims claims' : Option (List Claim)}
    (h : (claims.getD []).Perm (claims'.getD [])) (p : Principal) :
    ((compile name (some { r with allowClaims := claims })).outcome p).Alike
      ((compile name (some { r with allowClaims := claims' })).outcome p) := by
  cases ha : p.authenticated with
  | false =>
    rw [outcome_of_verdict name (.unauthenticated ha), outcome_of_verdict name (.unauthenticated ha)]
    exact .refl _
  | true =>
    rw [outcome_compile_some ha, outcome_compile_some ha]
    exact (CompiledRule.ofRule r).outcome_alike (h.append_left r.allowClaim.toList) p

/-- **The order in which a rule is built decides nothing about access.** Two
sequences of the same steps that keep the order of the single required claims
lead from any rule to policies with the same outcomes, up to which claim is
reported as missing; if they keep the order of the listed claims too, to one
and the same rule. To allow or deny a name that is allowed or denied by
another step changes nothing. -/
theorem outcome_compile_edits_perm (name : String) (r : Rule) :
    (∀ steps steps' : List Rule.Edit, steps.Perm steps' →
      steps.filterMap Rule.Edit.required? = steps'.filterMap Rule.Edit.required? →
      (∀ p, ((compile name (some (r.edits steps))).outcome p).Alike
        ((compile name (some (r.edits steps'))).outcome p)) ∧
      (steps.filterMap Rule.Edit.listed? = steps'.filterMap Rule.Edit.listed? →
        r.edits steps = r.edits steps')) ∧
    (∀ (e : Rule.Edit) (before after : List Rule.Edit), e.Names → e ∈ before ++ after →
      r.edits (before ++ e :: after) = r.edits (before ++ after)) := by
  refine ⟨fun steps steps' h hrequired => ⟨fun p => ?_, Rule.edits_perm_eq r h hrequired⟩,
    fun e before after he => he.edits_again⟩
  rw [Rule.edits_perm r h hrequired]
  exact outcome_compile_alike name (r.edits steps) (Rule.allowClaims_edits_perm r h) p

/-- Steps towards a rule: the second claim on the department replaces the first. -/
def studioSteps : List Rule.Edit :=
  [.denyUser "mallory", .alsoRequireClaim (.anyValue "mfa"), .requireClaim (.anyValue "staff"),
    .requireClaim (.ofValues "dept" ["design"]), .alsoRequireClaim (.anyValue "badge")]

/-- The same steps, with the listed claims the other way round. -/
def studioStepsReversed : List Rule.Edit :=
  [.alsoRequireClaim (.anyValue "badge"), .requireClaim (.anyValue "staff"), .denyUser "mallory",
    .requireClaim (.ofValues "dept" ["design"]), .alsoRequireClaim (.anyValue "mfa")]

/-- The same steps, each list of claims in its order. -/
def studioStepsGrouped : List Rule.Edit :=
  [.requireClaim (.anyValue "staff"), .requireClaim (.ofValues "dept" ["design"]),
    .alsoRequireClaim (.anyValue "mfa"), .alsoRequireClaim (.anyValue "badge"), .denyUser "mallory"]

/-- A designer who shows neither badge nor second factor. -/
def designer : Identity := (Identity.user "dora").withClaim "dept" "design"

/-- The designer is asked for another claim when the list is the other way
round. A name that is denied twice, the second time before all else, is denied
once. -/
theorem outcome_compile_studio :
    ((compile "studio" (some (Rule.edits {} studioSteps))).outcome designer.toPrincipal).Alike
      ((compile "studio" (some (Rule.edits {} studioStepsReversed))).outcome designer.toPrincipal) ∧
    (compile "studio" (some (Rule.edits {} studioSteps))).outcome designer.toPrincipal =
      .missingClaim "mfa" ∧
    (compile "studio" (some (Rule.edits {} studioStepsReversed))).outcome designer.toPrincipal =
      .missingClaim "badge" ∧
    Rule.edits {} studioSteps = Rule.edits {} studioStepsGrouped ∧
    Rule.edits {} (.denyUser "mallory" :: studioSteps) = Rule.edits {} studioSteps := by
  obtain ⟨hperm, hagain⟩ := outcome_compile_edits_perm "studio" {}
  obtain ⟨halike, -⟩ := hperm studioSteps studioStepsReversed (by decide) (by decide)
  obtain ⟨-, hequal⟩ := hperm studioSteps studioStepsGrouped (by decide) (by decide)
  exact ⟨halike _, by decide +kernel, by decide +kernel, hequal (by decide),
    hagain (.denyUser "mallory") [] studioSteps trivial (by decide)⟩

end Policy

end AccessPolicy
