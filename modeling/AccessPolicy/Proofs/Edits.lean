/-
Which way access moves when a rule is edited.

To deny a name or to require one more claim lets nobody in who was out; to
allow a name besides others keeps nobody out who was in. A sequence of such
edits does the same, if each of them is of its kind at the rule that it meets
(`Along`). The very first name that is allowed does neither: it shuts out all
others, and it switches the deny lists off.
-/
import AccessPolicy.Identity
import AccessPolicy.Proofs.AllowedNames

namespace AccessPolicy

/-- The edit allows the name, as a role or as a user. -/
def Rule.Edit.Allows (e : Rule.Edit) (n : String) : Prop := e = .allowRole n ∨ e = .allowUser n

namespace Rule

variable {r r' : Rule} {p : Principal} {e : Edit} {n : String}

/-- The edit denies a name, or requires a claim in nobody's stead. -/
def Tightens (r : Rule) : Edit → Prop
  | .denyRole _ | .denyUser _ | .alsoRequireClaim _ => True
  | .requireClaim _ => r.allowClaim = none
  | .allowRole _ | .allowUser _ => False

/-- The edit allows one more name. -/
def Widens (r : Rule) (e : Edit) : Prop := r.AllowsByName ∧ ∃ n, e.Allows n

/-- Every step of a sequence is of the kind, at the rule that it meets. -/
def Along (kind : Rule → Edit → Prop) : Rule → List Edit → Prop
  | _, [] => True
  | r, e :: steps => kind r e ∧ Along kind (r.edit e) steps

/-- What every edit of a kind keeps, a sequence of them keeps. -/
theorem Along.keeps {kind : Rule → Edit → Prop} {P : Rule → Prop}
    (step : ∀ r e, kind r e → P r → P (r.edit e)) {steps : List Edit} {r : Rule}
    (h : Along kind r steps) (hr : P r) : P (r.edits steps) := by
  induction steps generalizing r with
  | nil => exact hr
  | cons e steps ih =>
    obtain ⟨hkind, hrest⟩ := h
    exact ih hrest (step r e hkind hr)

/-! ## Tightening -/

/-- One rule allows whom another allows, denies at least whom it denies, and
requires at least what it requires. -/
structure Tighter (r' r : Rule) : Prop where
  roles : r'.allowRoles = r.allowRoles
  users : r'.allowUsers = r.allowUsers
  denies : ∀ n, r.Denies n → r'.Denies n
  claims : ∀ c ∈ r.requiredClaims, c ∈ r'.requiredClaims

theorem Tighter.allowsByName_iff (h : r'.Tighter r) : r'.AllowsByName ↔ r.AllowsByName := by
  rw [AllowsByName, AllowsByName, h.roles, h.users]

theorem Tighter.admits_iff (h : r'.Tighter r) : r'.Admits p ↔ r.Admits p := by
  rw [Admits, Admits, h.roles, h.users]

/-- Whom the tighter rule lets in, the other one lets in. -/
theorem Tighter.grants (h : r'.Tighter r) (hgrants : r'.Grants p) : r.Grants p := by
  have hclaims : r.MeetsClaims p := fun c hc => hgrants.claims c (h.claims c hc)
  -- Both rules are of the same kind, and the deny lists count in one of the kinds only.
  by_cases hallows : r.AllowsByName
  · obtain ⟨hauthenticated, hadmits, -⟩ :=
      (grants_iff_of_allowsByName (h.allowsByName_iff.2 hallows)).1 hgrants
    exact (grants_iff_of_allowsByName hallows).2 ⟨hauthenticated, h.admits_iff.1 hadmits, hclaims⟩
  · obtain ⟨hauthenticated, hdenied, -⟩ :=
      (grants_iff_of_not_allowsByName (fun hno => hallows (h.allowsByName_iff.1 hno))).1 hgrants
    exact (grants_iff_of_not_allowsByName hallows).2
      ⟨hauthenticated, fun n hn => hdenied n (h.denies n hn), hclaims⟩

/-- A name that is on a list stays on it when another one is denied. -/
theorem mem_insert_getD {names : Option NameSet} {s : NameSet} (hs : names = some s) (hn : n ∈ s)
    (m : String) : n ∈ (names.getD ∅).insert m := by
  rw [hs, NameSet.mem_insert]
  exact .inr hn

theorem tighter_edit (h : r.Tightens e) : (r.edit e).Tighter r := by
  cases e with
  | allowRole _ => exact h.elim
  | allowUser _ => exact h.elim
  | denyRole role =>
    refine ⟨rfl, rfl, ?_, fun _ hc => hc⟩
    rintro n ⟨s, hs | hs, hn⟩
    · exact ⟨_, .inl rfl, mem_insert_getD hs hn role⟩
    · exact ⟨s, .inr hs, hn⟩
  | denyUser user =>
    refine ⟨rfl, rfl, ?_, fun _ hc => hc⟩
    rintro n ⟨s, hs | hs, hn⟩
    · exact ⟨s, .inl hs, hn⟩
    · exact ⟨_, .inr rfl, mem_insert_getD hs hn user⟩
  | requireClaim claim =>
    refine ⟨rfl, rfl, fun _ hn => hn, fun c hc => ?_⟩
    -- An earlier claim would be replaced, and no longer asked for.
    have hnone : r.allowClaim = none := h
    rw [requiredClaims, hnone] at hc
    exact List.mem_cons_of_mem _ hc
  | alsoRequireClaim claim =>
    refine ⟨rfl, rfl, fun _ hn => hn, fun c hc => ?_⟩
    have happend : (r.edit (.alsoRequireClaim claim)).requiredClaims = r.requiredClaims ++ [claim] :=
      (List.append_assoc ..).symm
    rw [happend]
    exact List.mem_append_left _ hc

/-! ## Allowing a name -/

theorem Edit.Allows.allowsByName_edit (h : e.Allows n) (r : Rule) : (r.edit e).AllowsByName := by
  rcases h with rfl | rfl
  · exact ⟨n, .inl (NameSet.mem_insert.2 (.inl rfl))⟩
  · exact ⟨n, .inr (NameSet.mem_insert.2 (.inl rfl))⟩

theorem Edit.Allows.admits_edit_iff (h : e.Allows n) :
    (r.edit e).Admits p ↔ p.isMemberOf n = true ∨ r.Admits p := by
  have hmem : ∀ m, (m ∈ (r.edit e).allowRoles ∨ m ∈ (r.edit e).allowUsers) ↔
      m = n ∨ (m ∈ r.allowRoles ∨ m ∈ r.allowUsers) := by
    intro m
    rcases h with rfl | rfl
    · show (m ∈ r.allowRoles.insert n ∨ _) ↔ _
      rw [NameSet.mem_insert, or_assoc]
      rfl
    · show (_ ∨ m ∈ r.allowUsers.insert n) ↔ _
      rw [NameSet.mem_insert, or_left_comm]
      rfl
  simp only [Admits, hmem, or_and_right, exists_or, exists_eq_left]

theorem Edit.Allows.meetsClaims_edit_iff (h : e.Allows n) :
    (r.edit e).MeetsClaims p ↔ r.MeetsClaims p := by
  rcases h with rfl | rfl <;> exact Iff.rfl

/-- A rule that was made to allow a name lets in whom the name stands for, and
who was allowed before; the deny lists are idle now, if they were not already. -/
theorem Edit.Allows.grants_edit_iff (h : e.Allows n) :
    (r.edit e).Grants p ↔
      p.authenticated = true ∧ (p.isMemberOf n = true ∨ r.Admits p) ∧ r.MeetsClaims p := by
  rw [grants_iff_of_allowsByName (h.allowsByName_edit r), h.admits_edit_iff, h.meetsClaims_edit_iff]

theorem grants_edit_of_widens (h : r.Widens e) (hgrants : r.Grants p) : (r.edit e).Grants p := by
  obtain ⟨hallows, n, hn⟩ := h
  obtain ⟨hauthenticated, hadmits, hclaims⟩ := (grants_iff_of_allowsByName hallows).1 hgrants
  exact hn.grants_edit_iff.2 ⟨hauthenticated, .inr hadmits, hclaims⟩

theorem Edit.Allows.grants_edit_first_iff (h : e.Allows n) (hno : ¬ r.AllowsByName) :
    (r.edit e).Grants p ↔ p.authenticated = true ∧ p.isMemberOf n = true ∧ r.MeetsClaims p := by
  have hadmits : ¬ r.Admits p := fun hadmits => hno hadmits.allowsByName
  rw [h.grants_edit_iff, or_iff_left hadmits]

end Rule

/-! ## Sequences of edits -/

namespace Policy

/-- **Edits move access in one direction only.** Denying names and requiring
more claims never turns a refusal into a grant, and allowing more names never
turns a grant into a refusal. A rule that allowed nobody and is made to allow
one name lets in exactly those for whom the name stands and who meet the
claims, whomever it denies. -/
theorem outcome_compile_edits (name : String) (r : Rule) (p : Principal) :
    (∀ steps, Rule.Along Rule.Tightens r steps → (compile name (some r)).outcome p ≠ .granted →
      (compile name (some (r.edits steps))).outcome p ≠ .granted) ∧
    (∀ steps, Rule.Along Rule.Widens r steps → (compile name (some r)).outcome p = .granted →
      (compile name (some (r.edits steps))).outcome p = .granted) ∧
    (¬ r.AllowsByName → ∀ (e : Rule.Edit) (n : String), e.Allows n →
      ((compile name (some (r.edit e))).outcome p = .granted ↔
        p.authenticated = true ∧ p.isMemberOf n = true ∧ r.MeetsClaims p)) := by
  simp only [Ne, outcome_compile_eq_granted_iff]
  refine ⟨fun steps hsteps => ?_, fun steps hsteps => ?_, fun hno e n hn =>
    hn.grants_edit_first_iff hno⟩
  · exact hsteps.keeps (P := fun r => ¬ r.Grants p) fun _ _ htightens hnot hgrants =>
      hnot ((Rule.tighter_edit htightens).grants hgrants)
  · exact hsteps.keeps (P := fun r => r.Grants p) fun _ _ hwidens hgrants =>
      Rule.grants_edit_of_widens hwidens hgrants

/-- Nobody is allowed by name, and one user is denied. -/
def ward : Rule where
  denyUsers := some (.ofList ["bob"])

/-- Who is denied stays out when more is asked. To be the first who is allowed
by name opens the door all the same. -/
theorem outcome_compile_ward :
    (compile "ward" (some ward)).outcome (Identity.user "bob").toPrincipal ≠ .granted ∧
    (compile "ward" (some (ward.edits
      [.denyRole "visitor", .requireClaim (.anyValue "badge")]))).outcome
        (Identity.user "bob").toPrincipal ≠ .granted ∧
    (compile "ward" (some (ward.edit (.allowUser "bob")))).outcome
      (Identity.user "bob").toPrincipal = .granted := by
  obtain ⟨htighter, -, hfirst⟩ := outcome_compile_edits "ward" ward (Identity.user "bob").toPrincipal
  have hout : (compile "ward" (some ward)).outcome (Identity.user "bob").toPrincipal ≠ .granted := by
    decide
  have hno : ¬ ward.AllowsByName := Rule.not_allowsByName_iff.2 ⟨rfl, rfl⟩
  exact ⟨hout, htighter _ ⟨trivial, rfl, trivial⟩ hout,
    (hfirst hno (.allowUser "bob") "bob" (.inr rfl)).2 ⟨rfl, rfl, nofun⟩⟩

end Policy

end AccessPolicy
