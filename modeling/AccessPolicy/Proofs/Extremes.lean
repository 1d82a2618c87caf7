/-
The two ends of what a policy can say: nobody, and everybody.

Every rule lets somebody in, for it can be met word by word: by having all
allowed names as roles, no user that could be denied, and for each required
claim one that meets it (`Rule.guest`). So only a lock keeps everybody out.
To let in everybody, a rule must ask nothing (`Rule.AsksNothing`), and three
kinds of identities notice if it does ask something. Lists that are there but
empty ask nothing either, although such a rule is not empty as it is written:
this is why the table calls fewer policies open than there are.
-/
import AccessPolicy.Command.Policies
import AccessPolicy.Proofs.Identities
import AccessPolicy.Proofs.Registrations

namespace AccessPolicy

/-! ## Somebody gets in -/

/-- A held claim that meets the requirement. -/
def Claim.token (c : Claim) : HeldClaim := ⟨c.type, c.values.toList.headD ""⟩

namespace Rule

variable {r : Rule}

/-- An identity that is made for the rule. -/
def guest (r : Rule) : Identity :=
  { Identity.service with roles := r.allowed, claims := r.requiredClaims.map Claim.token }

theorem isMemberOf_guest {n : String} :
    r.guest.toPrincipal.isMemberOf n = true ↔ n ∈ r.allowRoles ∨ n ∈ r.allowUsers := by
  rw [Identity.isMemberOf_iff, ← NameSet.mem_union]
  simp [guest, allowed, Identity.service]

theorem met_guest {c : Claim} (hc : c ∈ r.requiredClaims) : c.Met r.guest.toPrincipal := by
  have hheld : c.token ∈ r.guest.claims := List.mem_map_of_mem hc
  by_cases hempty : c.values = ∅
  · exact .inr ⟨hempty, Identity.hasClaimType_iff.2 ⟨c.token, hheld, rfl⟩⟩
  · obtain ⟨v, hv⟩ : ∃ v, v ∈ c.values := by
      by_contra hno
      exact hempty (NameSet.eq_empty_iff.2 (not_exists.1 hno))
    have hfirst : c.values.toList.headD "" ∈ c.values := by
      rw [NameSet.mem_def] at hv ⊢
      cases htoList : c.values.toList with
      | nil => simp [htoList] at hv
      | cons w l => simp
    exact .inl ⟨_, hfirst, Identity.hasClaim_iff.2 ⟨c.token, hheld, rfl, rfl⟩⟩

theorem grants_guest (r : Rule) : r.Grants r.guest.toPrincipal := by
  have hclaims : r.MeetsClaims r.guest.toPrincipal := fun c hc => met_guest hc
  by_cases hallows : r.AllowsByName
  · obtain ⟨n, hn⟩ := hallows
    exact (grants_iff_of_allowsByName ⟨n, hn⟩).2 ⟨rfl, ⟨n, hn, isMemberOf_guest.2 hn⟩, hclaims⟩
  · refine (grants_iff_of_not_allowsByName hallows).2 ⟨rfl, fun n _ => ?_, hclaims⟩
    exact Bool.eq_false_iff.2 fun hmember => hallows ⟨n, isMemberOf_guest.1 hmember⟩

/-! ## Everybody gets in -/

/-- Nothing in the rule keeps out anybody who is authenticated. -/
structure AsksNothing (r : Rule) : Prop where
  allows : ¬ r.AllowsByName
  denies : ∀ n, ¬ r.Denies n
  claims : r.requiredClaims = []

theorem AsksNothing.grants (h : r.AsksNothing) {p : Principal} (hp : p.authenticated = true) :
    r.Grants p := by
  refine (grants_iff_of_not_allowsByName h.allows).2 ⟨hp, fun n hn => absurd hn (h.denies n), ?_⟩
  intro c hc
  have hnone : c ∈ ([] : List Claim) := h.claims ▸ hc
  cases hnone

theorem isMemberOf_service (n : String) : Identity.service.toPrincipal.isMemberOf n = false :=
  Bool.eq_false_iff.2 fun h => by simp [Identity.isMemberOf_iff, Identity.service] at h

theorem not_met_service (c : Claim) : ¬ c.Met Identity.service.toPrincipal := by
  simp [Claim.Met, Identity.hasClaim_iff, Identity.hasClaimType_iff, Identity.service]

/-- Who is nobody in particular notices allowed names and required claims, and
a user who is denied notices that. -/
theorem asksNothing_of_grants
    (h : ∀ i : Identity, i.authenticated = true → r.Grants i.toPrincipal) : r.AsksNothing := by
  have hservice := h .service rfl
  have hno : ¬ r.AllowsByName := fun hallows => by
    obtain ⟨-, ⟨n, -, hmember⟩, -⟩ := (grants_iff_of_allowsByName hallows).1 hservice
    rw [isMemberOf_service] at hmember
    cases hmember
  refine ⟨hno, fun n hn => ?_, ?_⟩
  · obtain ⟨-, hdenied, -⟩ := (grants_iff_of_not_allowsByName hno).1 (h (.user n) rfl)
    have hmember : (Identity.user n).toPrincipal.isMemberOf n = true :=
      Identity.isMemberOf_iff.2 (.inl rfl)
    rw [hdenied n hn] at hmember
    cases hmember
  · exact List.eq_nil_iff_forall_not_mem.2 fun c hc =>
      not_met_service c (hservice.claims c hc)

/-- A rule that says nothing asks nothing. -/
theorem asksNothing_of_isEmpty (h : r.isEmpty = true) : r.AsksNothing := by
  simp only [isEmpty, Bool.and_eq_true, Option.isNone_iff_eq_none, NameSet.isEmpty_iff] at h
  obtain ⟨⟨⟨⟨⟨hroles, husers⟩, hdenyRoles⟩, hdenyUsers⟩, hclaim⟩, hclaims⟩ := h
  refine ⟨not_allowsByName_iff.2 ⟨hroles, husers⟩, ?_, by simp [requiredClaims, hclaim, hclaims]⟩
  rintro n ⟨s, hs, -⟩
  simp [hdenyRoles, hdenyUsers] at hs

end Rule

namespace Policy

theorem exists_granted (name : String) (r : Rule) :
    ∃ i : Identity, (compile name (some r)).outcome i.toPrincipal = .granted :=
  ⟨r.guest, (outcome_compile_eq_granted_iff name).2 r.grants_guest⟩

theorem grants_nobody_iff (name : String) (entry : Option Rule) :
    (∀ p, (compile name entry).outcome p ≠ .granted) ↔ entry = none := by
  constructor
  · intro h
    cases entry with
    | none => rfl
    | some r =>
      obtain ⟨i, hi⟩ := exists_granted name r
      exact absurd hi (h _)
  · rintro rfl p
    exact outcome_compile_none_ne_granted name p

theorem grants_everybody_iff (name : String) (entry : Option Rule) :
    (∀ p, p.authenticated = true → (compile name entry).outcome p = .granted) ↔
      ∃ r, entry = some r ∧ r.AsksNothing := by
  constructor
  · intro h
    cases entry with
    | none => exact absurd (h Identity.service.toPrincipal rfl) (outcome_compile_none_ne_granted name _)
    | some r =>
      refine ⟨r, rfl, Rule.asksNothing_of_grants fun i hi => ?_⟩
      exact (outcome_compile_eq_granted_iff name).1 (h i.toPrincipal hi)
  · rintro ⟨r, rfl, hr⟩ p hp
    exact (outcome_compile_eq_granted_iff name).2 (hr.grants hp)

end Policy

/-! ## The table of the policies -/

theorem CompiledPolicies.mem_toList {c : CompiledPolicies} {policy : Policy}
    (h : policy ∈ c.toList) : ∃ name, c.get? name = some policy := by
  obtain ⟨⟨name, _⟩, hmem, rfl⟩ := List.mem_map.1 h
  exact ⟨name, NameMap.get?_eq_some.2 hmem⟩

theorem PolicySet.get?_compile_eq_some_iff {s : PolicySet} {name : String} {policy : Policy} :
    s.compile.get? name = some policy ↔
      ∃ entry, s.get? name = some entry ∧ Policy.compile name entry = policy := by
  rw [get?_compile, Option.map_eq_some_iff]

/-- The names of the compiled policies, one by one, are those they stand under. -/
theorem PolicySet.map_name_compile (s : PolicySet) :
    s.compile.toList.map Policy.name = s.compile.names := by
  rw [CompiledPolicies.toList, NameMap.values, List.map_map, CompiledPolicies.names, NameMap.keys]
  refine List.map_congr_left fun e he => ?_
  obtain ⟨name, policy⟩ := e
  obtain ⟨entry, -, rfl⟩ := get?_compile_eq_some_iff.1 (NameMap.get?_eq_some.2 he)
  exact Policy.name_compile name entry

namespace Command

/-- The cell of a row below a heading. -/
def cell (heading : String) (row : List String) : Option String :=
  row[policyHeadings.idxOf heading]?

/-- What the kind of a policy tells about it. -/
structure KindTells (kind : String) (policy : Policy) : Prop where
  locked : kind = "locked" ↔ ∀ p, policy.outcome p ≠ .granted
  authenticated : kind = "authenticated" →
    ∀ p, p.authenticated = true → policy.outcome p = .granted

theorem ruleKind_ne_locked (r : Rule) : ruleKind r ≠ "locked" := by
  rw [ruleKind]
  split <;> decide

theorem kindTells_locked (name : String) : KindTells "locked" (.compile name none) where
  locked := iff_of_true rfl ((Policy.grants_nobody_iff name none).2 rfl)
  authenticated h := absurd h (by decide)

theorem kindTells_rule (name : String) (r : Rule) :
    KindTells (ruleKind r) (.compile name (some r)) where
  locked := by
    refine iff_of_false (ruleKind_ne_locked r) fun h => ?_
    obtain ⟨i, hi⟩ := Policy.exists_granted name r
    exact h _ hi
  authenticated h := by
    have hempty : r.isEmpty = true := by
      rw [ruleKind] at h
      split at h
      · assumption
      · exact absurd h (by decide)
    exact (Policy.grants_everybody_iff name (some r)).2 ⟨r, rfl, Rule.asksNothing_of_isEmpty hempty⟩

theorem cell_policyRow (set : PolicySet) (policy : Policy) :
    cell "Policy" (policyRow set policy) = some policy.name := by
  rw [policyRow]
  split <;> rfl

/-- The kind in the row of a policy. -/
theorem kindTells_policyRow {set : PolicySet} {name : String} {entry : Option Rule}
    (h : set.get? name = some entry) :
    ∃ kind, cell "Kind" (policyRow set (.compile name entry)) = some kind ∧
      KindTells kind (.compile name entry) := by
  rw [policyRow, Policy.name_compile, h]
  cases entry with
  | none => exact ⟨"locked", rfl, kindTells_locked name⟩
  | some r => exact ⟨ruleKind r, rfl, kindTells_rule name r⟩

theorem cell_policyRows (set : PolicySet) :
    (policyRows set.compile set).map (cell "Policy") = set.compile.names.map some := by
  rw [policyRows, List.map_map, ← set.map_name_compile, List.map_map]
  exact List.map_congr_left fun policy _ => cell_policyRow set policy

theorem kindTells_policyRows {set : PolicySet} {row : List String}
    (h : row ∈ policyRows set.compile set) :
    ∃ name kind policy, cell "Policy" row = some name ∧ cell "Kind" row = some kind ∧
      set.compile.get? name = some policy ∧ KindTells kind policy := by
  obtain ⟨policy, hmem, rfl⟩ := List.mem_map.1 h
  obtain ⟨name, hpolicy⟩ := CompiledPolicies.mem_toList hmem
  obtain ⟨entry, hentry, rfl⟩ := PolicySet.get?_compile_eq_some_iff.1 hpolicy
  obtain ⟨kind, hkind, htells⟩ := kindTells_policyRow hentry
  refine ⟨name, kind, _, ?_, hkind, hpolicy, htells⟩
  rw [cell_policyRow, Policy.name_compile]

end Command

/-! ## The extremes -/

/-- **Nobody and everybody.** Every rule lets some identity in, so the policies
that refuse everyone are the locked ones. A policy lets in everyone who is
authenticated exactly if it has a rule that allows nobody by name, denies
nobody and requires no claim. The table has a row for each registered name, in
their order; it says of exactly those that they are locked that let nobody in,
and says only of those that they let in the authenticated that let in all of
them. -/
theorem Policy.outcome_compile_extremes :
    (∀ name r, ∃ i : Identity, (compile name (some r)).outcome i.toPrincipal = .granted) ∧
    (∀ name entry, (∀ p, (compile name entry).outcome p ≠ .granted) ↔ entry = none) ∧
    (∀ name entry, (∀ p, p.authenticated = true → (compile name entry).outcome p = .granted) ↔
      ∃ r, entry = some r ∧ r.AsksNothing) ∧
    (∀ set : PolicySet,
      (Command.policyRows set.compile set).map (Command.cell "Policy") = set.compile.names.map some ∧
      set.compile.names.Pairwise (· < ·) ∧
      (∀ name, name ∈ set.compile.names ↔ ∃ entry, set.get? name = some entry) ∧
      ∀ row ∈ Command.policyRows set.compile set, ∃ name kind policy,
        Command.cell "Policy" row = some name ∧ Command.cell "Kind" row = some kind ∧
        set.compile.get? name = some policy ∧ Command.KindTells kind policy) :=
  ⟨exists_granted, grants_nobody_iff, grants_everybody_iff, fun set =>
    ⟨Command.cell_policyRows set, set.compile.policies.keys_increasing, set.mem_names_compile,
      fun _ => Command.kindTells_policyRows⟩⟩

/-- A rule with a deny list on which nobody is. -/
def lobby : Rule where
  denyRoles := some ∅

/-- A lobby, and a vault that is locked. -/
def building : PolicySet := .ofList [("vault", none), ("lobby", some lobby)]

/-- Everybody gets into the lobby, although its rule is not empty, and nobody
into the vault: the table says so. -/
theorem Policy.outcome_compile_building :
    lobby.AsksNothing ∧ lobby.isEmpty = false ∧
    (∀ p, p.authenticated = true → (compile "lobby" (some lobby)).outcome p = .granted) ∧
    ["vault", "locked", "-", "-", "-"] ∈ Command.policyRows building.compile building ∧
    ∃ policy, building.compile.get? "vault" = some policy ∧ ∀ p, policy.outcome p ≠ .granted := by
  obtain ⟨-, -, heverybody, htable⟩ := outcome_compile_extremes
  have hopen : lobby.AsksNothing := by
    refine ⟨Rule.not_allowsByName_iff.2 ⟨rfl, rfl⟩, fun n hn => ?_, rfl⟩
    obtain ⟨s, hs | hs, hmem⟩ := hn
    · cases hs
      exact absurd hmem (NameSet.not_mem_empty n)
    · cases hs
  have hrow : ["vault", "locked", "-", "-", "-"] ∈ Command.policyRows building.compile building := by
    decide +kernel
  obtain ⟨-, -, -, hkinds⟩ := htable building
  obtain ⟨name, kind, policy, hname, hkind, hpolicy, htells⟩ := hkinds _ hrow
  obtain rfl : name = "vault" := (Option.some.inj hname).symm
  obtain rfl : kind = "locked" := (Option.some.inj hkind).symm
  exact ⟨hopen, rfl, (heverybody "lobby" (some lobby)).2 ⟨lobby, rfl, hopen⟩, hrow, policy, hpolicy,
    htells.locked.1 rfl⟩

end AccessPolicy
