/-
What an entry of a registry says about a principal, read off the rule as it
is written, and the proof that compiled policies say the same.

A compiled rule has its allowed names merged and its claims in one list; the
reading here knows nothing of that. `Rule.Grants` is what has to hold for
access. `Verdict` adds which check is the first to fail, with the smallest
name of a deny list and the first claim in the order of writing.
`outcome_compile_iff` shows that the outcome of a compiled policy is the
verdict, so there is exactly one for every entry and principal.
-/
import AccessPolicy.Policy

namespace AccessPolicy

/-! ## Rules as they are written -/

/-- The principal has a claim of the type with one of the values, or with any
value if none is listed. -/
def Claim.Met (c : Claim) (p : Principal) : Prop :=
  (∃ v ∈ c.values, p.hasClaim c.type v = true) ∨ (c.values = ∅ ∧ p.hasClaimType c.type = true)

namespace Rule

/-- One of the allowed names stands for the principal. -/
def Admits (r : Rule) (p : Principal) : Prop :=
  ∃ n, (n ∈ r.allowRoles ∨ n ∈ r.allowUsers) ∧ p.isMemberOf n = true

/-- The check of the allowed names, which only counts if there are any. -/
def PassesAllowed (r : Rule) (p : Principal) : Prop :=
  (r.allowRoles = ∅ ∧ r.allowUsers = ∅) ∨ r.Admits p

/-- The check of a deny list: only who is allowed by name may be on it. -/
def PassesDenied (r : Rule) (names : Option NameSet) (p : Principal) : Prop :=
  ∀ s, names = some s → ∀ n ∈ s, p.isMemberOf n = true → r.Admits p

/-- The name is the smallest of a deny list that stands for the principal. -/
def SmallestMember (names : Option NameSet) (p : Principal) (n : String) : Prop :=
  ∃ s, names = some s ∧ n ∈ s ∧ p.isMemberOf n = true ∧ ∀ m ∈ s, p.isMemberOf m = true → n ≤ m

/-- The claim is the first of the required ones that the principal does not meet. -/
def FirstUnmet (r : Rule) (p : Principal) (c : Claim) : Prop :=
  ∃ before after, r.allowClaim.toList ++ r.allowClaims.getD [] = before ++ c :: after ∧
    (∀ d ∈ before, d.Met p) ∧ ¬ c.Met p

/-- All required claims are met. -/
def MeetsClaims (r : Rule) (p : Principal) : Prop :=
  ∀ c ∈ r.allowClaim.toList ++ r.allowClaims.getD [], c.Met p

/-- Everything that a rule asks of a principal. -/
structure Grants (r : Rule) (p : Principal) : Prop where
  authenticated : p.authenticated = true
  allowed : r.PassesAllowed p
  roles : r.PassesDenied r.denyRoles p
  users : r.PassesDenied r.denyUsers p
  claims : r.MeetsClaims p

end Rule

/-- What an entry says about a principal: the first check that fails, or that
none does. -/
inductive Verdict (p : Principal) : Option Rule → Outcome → Prop where
  | unauthenticated {entry} : p.authenticated = false → Verdict p entry .unauthenticated
  | locked : p.authenticated = true → Verdict p none .locked
  | notAllowed {r} : p.authenticated = true → ¬ r.PassesAllowed p →
      Verdict p (some r) .notAllowed
  | deniedRole {r n} : p.authenticated = true → r.PassesAllowed p → ¬ r.Admits p →
      Rule.SmallestMember r.denyRoles p n → Verdict p (some r) (.deniedRole n)
  | deniedUser {r n} : p.authenticated = true → r.PassesAllowed p →
      r.PassesDenied r.denyRoles p → ¬ r.Admits p → Rule.SmallestMember r.denyUsers p n →
      Verdict p (some r) (.deniedUser n)
  | missingClaim {r c} : p.authenticated = true → r.PassesAllowed p →
      r.PassesDenied r.denyRoles p → r.PassesDenied r.denyUsers p → r.FirstUnmet p c →
      Verdict p (some r) (.missingClaim c.type)
  | granted {r} : r.Grants p → Verdict p (some r) .granted

/-! ## The parts of a compiled rule -/

theorem NameSet.isEmpty_iff {s : NameSet} : s.isEmpty = true ↔ s = ∅ := by
  constructor
  · intro h
    refine NameSet.ext fun x => ?_
    rw [NameSet.mem_def, List.isEmpty_iff.1 h]
    simp
  · rintro rfl; rfl

/-- In an increasing list the first name with a property is the smallest. -/
theorem NameSet.find?_toList {s : NameSet} {q : String → Bool} {n : String} :
    s.toList.find? q = some n ↔ n ∈ s ∧ q n = true ∧ ∀ m ∈ s, q m = true → n ≤ m := by
  obtain ⟨l, hl⟩ := s
  simp only [NameSet.mem_def]
  induction l with
  | nil => simp
  | cons a l ih =>
    have hal := List.pairwise_cons.1 hl
    cases hqa : q a with
    | true =>
      simp only [List.find?_cons, hqa, Option.some.injEq, List.mem_cons]
      constructor
      · rintro rfl
        refine ⟨.inl rfl, hqa, fun m hm _ => ?_⟩
        rcases hm with rfl | hm
        · exact String.le_refl _
        · exact String.not_lt.1 (String.lt_asymm (hal.1 m hm))
      · rintro ⟨hn | hn, -, hmin⟩
        · exact hn.symm
        · exact absurd (hmin a (.inl rfl) hqa) (String.not_le.2 (hal.1 n hn))
    | false =>
      simp only [List.find?_cons, hqa, ih hal.2, List.mem_cons]
      constructor
      · rintro ⟨hn, hqn, hmin⟩
        refine ⟨.inr hn, hqn, fun m hm hqm => ?_⟩
        rcases hm with rfl | hm
        · simp [hqa] at hqm
        · exact hmin m hm hqm
      · rintro ⟨hn | hn, hqn, hmin⟩
        · simp [hn, hqa] at hqn
        · exact ⟨hn, hqn, fun m hm => hmin m (.inr hm)⟩

theorem Claim.satisfiedBy_iff {c : Claim} {p : Principal} : c.satisfiedBy p = true ↔ c.Met p := by
  simp only [Claim.satisfiedBy, Claim.Met]
  split
  · rename_i h
    rw [NameSet.isEmpty_iff] at h
    simp [h]
  · rename_i h
    have hne : c.values ≠ ∅ := fun he => h (NameSet.isEmpty_iff.2 he)
    rw [List.any_eq_true]
    simp [hne, NameSet.mem_def]

theorem Claim.satisfiedBy_eq_false_iff {c : Claim} {p : Principal} :
    c.satisfiedBy p = false ↔ ¬ c.Met p := by
  rw [← Claim.satisfiedBy_iff, Bool.not_eq_true]

namespace CompiledRule

variable {r : Rule} {p : Principal} {names : Option NameSet}

theorem any_identities_iff : (ofRule r).identities.any p.isMemberOf = true ↔ r.Admits p := by
  simp only [ofRule, List.any_eq_true, Rule.Admits, ← NameSet.mem_def, Rule.allowed,
    NameSet.mem_union]

theorem isEmpty_identities_iff :
    (ofRule r).identities.isEmpty = true ↔ r.allowRoles = ∅ ∧ r.allowUsers = ∅ := by
  show r.allowed.isEmpty = true ↔ _
  rw [NameSet.isEmpty_iff]
  simp only [Rule.allowed, NameSet.ext_iff, NameSet.mem_union, NameSet.not_mem_empty, iff_false,
    not_or, forall_and]

theorem firstMember_eq_some_iff {n : String} :
    firstMember (names.map NameSet.toList) p = some n ↔ Rule.SmallestMember names p n := by
  cases names with
  | none => simp [firstMember, Rule.SmallestMember]
  | some s => simp [firstMember, Rule.SmallestMember, NameSet.find?_toList]

theorem firstMember_eq_none_iff :
    firstMember (names.map NameSet.toList) p = none ↔
      ∀ s, names = some s → ∀ n ∈ s, p.isMemberOf n = false := by
  cases names with
  | none => simp [firstMember]
  | some s => simp [firstMember, NameSet.mem_def]

/-- Nobody on a deny list is a member of it, unless allowed by name. -/
theorem passesDenied_iff (h : ¬ r.Admits p) :
    r.PassesDenied names p ↔ firstMember (names.map NameSet.toList) p = none := by
  simp only [firstMember_eq_none_iff, Rule.PassesDenied, h, imp_false, Bool.not_eq_true]

theorem claimsOutcome_eq_missingClaim {c : Claim} (h : r.FirstUnmet p c) :
    (ofRule r).claimsOutcome p = .missingClaim c.type := by
  obtain ⟨before, after, heq, hbefore, hc⟩ := h
  have hfind : (ofRule r).claims.find? (fun c => !c.satisfiedBy p) = some c := by
    rw [List.find?_eq_some_iff_append]
    refine ⟨by simpa [Claim.satisfiedBy_eq_false_iff] using hc, before, after, heq, fun d hd => ?_⟩
    simpa [Claim.satisfiedBy_iff] using hbefore d hd
  simp only [claimsOutcome, hfind]

theorem claimsOutcome_eq_granted (h : r.MeetsClaims p) :
    (ofRule r).claimsOutcome p = .granted := by
  have hfind : (ofRule r).claims.find? (fun c => !c.satisfiedBy p) = none := by
    rw [List.find?_eq_none]
    intro c hc
    simpa [Claim.satisfiedBy_iff] using h c hc
  simp only [claimsOutcome, hfind]

/-- Either all required claims are met, or there is a first that is not. -/
theorem meetsClaims_or_firstUnmet (r : Rule) (p : Principal) :
    r.MeetsClaims p ∨ ∃ c, r.FirstUnmet p c := by
  cases hfind : (ofRule r).claims.find? (fun c => !c.satisfiedBy p) with
  | none =>
    refine .inl fun c hc => ?_
    simpa [Claim.satisfiedBy_iff] using List.find?_eq_none.1 hfind c hc
  | some c =>
    obtain ⟨hc, before, after, heq, hbefore⟩ := List.find?_eq_some_iff_append.1 hfind
    refine .inr ⟨c, before, after, heq, fun d hd => ?_, ?_⟩
    · simpa [Claim.satisfiedBy_iff] using hbefore d hd
    · simpa [Claim.satisfiedBy_eq_false_iff] using hc

/-! ## The chain of checks -/

theorem outcome_of_not_passesAllowed (h : ¬ r.PassesAllowed p) :
    (ofRule r).outcome p = .notAllowed := by
  simp only [Rule.PassesAllowed, not_or] at h
  rw [← isEmpty_identities_iff, ← any_identities_iff] at h
  simp [outcome, h.1, h.2]

theorem outcome_of_not_admits (h : r.PassesAllowed p) (hn : ¬ r.Admits p) :
    (ofRule r).outcome p = match (ofRule r).denial p with
      | some refusal => refusal
      | none => (ofRule r).claimsOutcome p := by
  have hempty := isEmpty_identities_iff.2 (h.resolve_right hn)
  rw [← any_identities_iff] at hn
  show (if _ then _ else if _ then _ else _) = _
  exact (if_neg hn).trans (if_neg (by simp [hempty]))

theorem outcome_of_passes (h : r.PassesAllowed p) (hr : r.PassesDenied r.denyRoles p)
    (hu : r.PassesDenied r.denyUsers p) : (ofRule r).outcome p = (ofRule r).claimsOutcome p := by
  by_cases ha : r.Admits p
  · simp only [outcome, any_identities_iff.2 ha, if_true]
  · rw [outcome_of_not_admits h ha]
    rw [passesDenied_iff ha] at hr hu
    simp only [denial, ofRule, hr, hu, Option.map_none]

theorem outcome_of_deniedRole {n : String} (h : r.PassesAllowed p) (hn : ¬ r.Admits p)
    (hs : Rule.SmallestMember r.denyRoles p n) : (ofRule r).outcome p = .deniedRole n := by
  rw [outcome_of_not_admits h hn]
  rw [← firstMember_eq_some_iff] at hs
  simp only [denial, ofRule, hs]

theorem outcome_of_deniedUser {n : String} (h : r.PassesAllowed p) (hn : ¬ r.Admits p)
    (hr : r.PassesDenied r.denyRoles p) (hs : Rule.SmallestMember r.denyUsers p n) :
    (ofRule r).outcome p = .deniedUser n := by
  rw [outcome_of_not_admits h hn]
  rw [passesDenied_iff hn] at hr
  rw [← firstMember_eq_some_iff] at hs
  simp only [denial, ofRule, hr, hs, Option.map_some]

/-- Either a deny list is passed, or there is a smallest name on it that stands
for a principal who is not allowed by name. -/
theorem passesDenied_or_smallestMember (r : Rule) (names : Option NameSet) (p : Principal) :
    r.PassesDenied names p ∨ ¬ r.Admits p ∧ ∃ n, Rule.SmallestMember names p n := by
  by_cases ha : r.Admits p
  · exact .inl fun _ _ _ _ _ => ha
  · rw [passesDenied_iff ha]
    cases hf : firstMember (names.map NameSet.toList) p with
    | none => exact .inl rfl
    | some n => exact .inr ⟨ha, n, firstMember_eq_some_iff.1 hf⟩

end CompiledRule

/-! ## Compiled policies -/

/-- There is a verdict for every entry and principal. -/
theorem exists_verdict (entry : Option Rule) (p : Principal) : ∃ o, Verdict p entry o := by
  cases ha : p.authenticated with
  | false => exact ⟨_, .unauthenticated ha⟩
  | true =>
  cases entry with
  | none => exact ⟨_, .locked ha⟩
  | some r =>
  by_cases hallowed : r.PassesAllowed p
  rotate_left
  · exact ⟨_, .notAllowed ha hallowed⟩
  rcases CompiledRule.passesDenied_or_smallestMember r r.denyRoles p with hr | ⟨hn, n, hs⟩
  rotate_left
  · exact ⟨_, .deniedRole ha hallowed hn hs⟩
  rcases CompiledRule.passesDenied_or_smallestMember r r.denyUsers p with hu | ⟨hn, n, hs⟩
  rotate_left
  · exact ⟨_, .deniedUser ha hallowed hr hn hs⟩
  rcases CompiledRule.meetsClaims_or_firstUnmet r p with hc | ⟨c, hc⟩
  · exact ⟨_, .granted ⟨ha, hallowed, hr, hu, hc⟩⟩
  · exact ⟨_, .missingClaim ha hallowed hr hu hc⟩

namespace Policy

theorem outcome_compile_none (name : String) (p : Principal) :
    (compile name none).outcome p = if p.authenticated then .locked else .unauthenticated := by
  cases ha : p.authenticated <;> simp [outcome, compile, ha]

/-- Nobody gets past a lock. -/
theorem outcome_compile_none_ne_granted (name : String) (p : Principal) :
    (compile name none).outcome p ≠ .granted := by
  rw [outcome_compile_none]
  cases p.authenticated <;> simp

theorem outcome_compile_some {p : Principal} (ha : p.authenticated = true) (name : String)
    (r : Rule) : (compile name (some r)).outcome p = (CompiledRule.ofRule r).outcome p := by
  simp [outcome, compile, ha]

theorem outcome_of_verdict (name : String) {entry : Option Rule} {p : Principal} {o : Outcome}
    (h : Verdict p entry o) : (compile name entry).outcome p = o := by
  cases h with
  | unauthenticated ha => cases entry <;> simp [outcome, ha]
  | locked ha => simp [outcome_compile_none, ha]
  | notAllowed ha hn =>
    rw [outcome_compile_some ha, CompiledRule.outcome_of_not_passesAllowed hn]
  | deniedRole ha h hn hs =>
    rw [outcome_compile_some ha, CompiledRule.outcome_of_deniedRole h hn hs]
  | deniedUser ha h hr hn hs =>
    rw [outcome_compile_some ha, CompiledRule.outcome_of_deniedUser h hn hr hs]
  | missingClaim ha h hr hu hc =>
    rw [outcome_compile_some ha, CompiledRule.outcome_of_passes h hr hu,
      CompiledRule.claimsOutcome_eq_missingClaim hc]
  | granted h =>
    rw [outcome_compile_some h.authenticated,
      CompiledRule.outcome_of_passes h.allowed h.roles h.users,
      CompiledRule.claimsOutcome_eq_granted h.claims]

/-- The outcome of a compiled policy is the verdict on its entry. -/
theorem outcome_compile_iff (name : String) {entry : Option Rule} {p : Principal} {o : Outcome} :
    (compile name entry).outcome p = o ↔ Verdict p entry o := by
  refine ⟨?_, outcome_of_verdict name⟩
  rintro rfl
  obtain ⟨o, ho⟩ := exists_verdict entry p
  rwa [outcome_of_verdict name ho]

theorem outcome_compile_eq_granted_iff (name : String) {r : Rule} {p : Principal} :
    (compile name (some r)).outcome p = .granted ↔ r.Grants p := by
  rw [outcome_compile_iff]
  exact ⟨fun | .granted h => h, .granted⟩

/-- **A compiled policy decides as its rule reads.** Its decision bears its
name and the verdict on the rule as it is written, so the outcome is the first
failing check, with the smallest denied name or the first unmet claim, and
access is granted exactly to those who pass every check. A policy without a
rule refuses everyone. -/
theorem evaluate_compile (name : String) (p : Principal) :
    (∀ (r : Rule) (o : Outcome),
      (compile name (some r)).evaluate p = ⟨name, o⟩ ↔ Verdict p (some r) o) ∧
    (∀ r : Rule, ((compile name (some r)).evaluate p).outcome = .granted ↔ r.Grants p) ∧
    (compile name none).evaluate p =
      ⟨name, if p.authenticated then .locked else .unauthenticated⟩ := by
  refine ⟨fun r o => ?_, fun r => outcome_compile_eq_granted_iff name, ?_⟩
  · rw [← outcome_compile_iff name]
    simp [evaluate, compile]
  · rw [← outcome_compile_none name p]
    rfl

end Policy

end AccessPolicy
