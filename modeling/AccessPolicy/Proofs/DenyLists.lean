/-
When deny lists count: only for rules that allow nobody by name, and then
before any claim is looked at.

Whoever is not among the allowed names is turned away for that before the deny
lists come up, and whoever is among them is past the deny lists
(`CompiledRule.outcome_of_allowsByName`). So a name that is denied beside
allowed ones changes nothing, not even the reason of a refusal.
-/
import AccessPolicy.Identity
import AccessPolicy.Proofs.AllowedNames

namespace AccessPolicy

/-- The outcome is a refusal by a deny list. -/
def Outcome.ByDenyList : Outcome → Prop
  | .deniedRole _ | .deniedUser _ => True
  | _ => False

variable {r : Rule} {p : Principal} {n : String}

/-! ## Rules that allow somebody by name -/

theorem CompiledRule.outcome_of_allowsByName (h : r.AllowsByName) :
    (ofRule r).outcome p =
      if (ofRule r).identities.any p.isMemberOf then (ofRule r).claimsOutcome p else .notAllowed := by
  have hsome : (ofRule r).identities.isEmpty = false := by
    rw [Bool.eq_false_iff, Ne, isEmpty_identities_iff, ← Rule.not_allowsByName_iff]
    exact fun hno => hno h
  rw [outcome, hsome]
  rfl

/-! ## Rules that allow nobody by name -/

/-- Who is on a deny list does not pass both of them, unless allowed by name. -/
theorem Rule.Denies.admits (h : r.Denies n) (hmember : p.isMemberOf n = true)
    (hroles : r.PassesDenied r.denyRoles p) (husers : r.PassesDenied r.denyUsers p) :
    r.Admits p := by
  obtain ⟨s, hs | hs, hn⟩ := h
  · exact hroles s hs n hn hmember
  · exact husers s hs n hn hmember

theorem Rule.SmallestMember.denies {names : Option NameSet} (h : SmallestMember names p n)
    (hnames : names = r.denyRoles ∨ names = r.denyUsers) : r.Denies n ∧ p.isMemberOf n = true := by
  obtain ⟨s, hs, hn, hmember, -⟩ := h
  exact ⟨⟨s, hnames.imp (·.symm.trans hs) (·.symm.trans hs), hn⟩, hmember⟩

/-- Who passes the check of the allowed names without being one of them, passes
it because there are none. -/
theorem Rule.PassesAllowed.not_allowsByName (h : r.PassesAllowed p) (hn : ¬ r.Admits p) :
    ¬ r.AllowsByName := (passesAllowed_iff.1 h).resolve_right hn

namespace Verdict

variable {entry : Option Rule} {o : Outcome}

theorem exists_denies (h : Verdict p entry o) (ho : o.ByDenyList) :
    p.authenticated = true ∧ ∃ r, entry = some r ∧ ¬ r.AllowsByName ∧
      ∃ n, r.Denies n ∧ p.isMemberOf n = true := by
  cases h with
  | deniedRole hauthenticated hallowed hn hs =>
    exact ⟨hauthenticated, _, rfl, hallowed.not_allowsByName hn, _, hs.denies (.inl rfl)⟩
  | deniedUser hauthenticated hallowed _ hn hs =>
    exact ⟨hauthenticated, _, rfl, hallowed.not_allowsByName hn, _, hs.denies (.inr rfl)⟩
  | _ => exact ho.elim

theorem byDenyList (h : Verdict p (some r) o) (hauthenticated : p.authenticated = true)
    (hno : ¬ r.AllowsByName) (hdenies : r.Denies n) (hmember : p.isMemberOf n = true) :
    o.ByDenyList := by
  have hout : ¬ r.Admits p := fun hadmits => hno hadmits.allowsByName
  cases h with
  | unauthenticated hunknown =>
    rw [hauthenticated] at hunknown
    cases hunknown
  | notAllowed _ hnot => exact absurd (Rule.passesAllowed_iff.2 (.inl hno)) hnot
  | deniedRole => trivial
  | deniedUser => trivial
  | missingClaim _ _ hroles husers _ => exact absurd (hdenies.admits hmember hroles husers) hout
  | granted hgrants => exact absurd (hdenies.admits hmember hgrants.roles hgrants.users) hout

end Verdict

/-! ## Compiled policies -/

namespace Policy

/-- **Deny lists are idle beside allowed names.** If a rule allows somebody by
name, other deny lists in it change no outcome, nor its reason. A refusal by a
deny list is what the authenticated get, exactly, for whom a denied name stands
where nobody is allowed by name. There nobody gets in for whom a denied name
stands, whatever they can show besides. -/
theorem outcome_compile_denyLists (name : String) (p : Principal) :
    (∀ (r : Rule) (denyRoles denyUsers : Option NameSet), r.AllowsByName →
      (compile name (some { r with denyRoles, denyUsers })).outcome p =
        (compile name (some r)).outcome p) ∧
    (∀ entry : Option Rule, ((compile name entry).outcome p).ByDenyList ↔
      p.authenticated = true ∧ ∃ r, entry = some r ∧ ¬ r.AllowsByName ∧
        ∃ n, r.Denies n ∧ p.isMemberOf n = true) ∧
    (∀ (r : Rule) (n : String), ¬ r.AllowsByName → r.Denies n → p.isMemberOf n = true →
      (compile name (some r)).outcome p ≠ .granted) := by
  refine ⟨fun r denyRoles denyUsers h => ?_, fun entry => ⟨fun ho => ?_, ?_⟩,
    fun r n hno hdenies hmember hgranted => ?_⟩
  · cases ha : p.authenticated with
    | false =>
      rw [outcome_of_verdict name (.unauthenticated ha), outcome_of_verdict name (.unauthenticated ha)]
    | true =>
      have hother : { r with denyRoles, denyUsers : Rule }.AllowsByName := h
      rw [outcome_compile_some ha, outcome_compile_some ha,
        CompiledRule.outcome_of_allowsByName h, CompiledRule.outcome_of_allowsByName hother]
      rfl
  · exact ((outcome_compile_iff name).1 rfl).exists_denies ho
  · rintro ⟨hauthenticated, r, rfl, hno, n, hdenies, hmember⟩
    exact ((outcome_compile_iff name).1 rfl).byDenyList hauthenticated hno hdenies hmember
  · rw [outcome_compile_eq_granted_iff, Rule.grants_iff_of_not_allowsByName hno] at hgranted
    rw [hgranted.2.1 n hdenies] at hmember
    cases hmember

/-- Administrators are allowed, and one user is denied. -/
def panel : Rule where
  allowRoles := .ofList ["admin"]
  denyUsers := some (.ofList ["mallory"])

/-- An administrator with a second factor. -/
def mallory : Identity := ((Identity.user "mallory").withRole "admin").withClaim "mfa" "true"

/-- The denied administrator gets in, and would without the deny lists. If the
role were not allowed, no claim would help. -/
theorem outcome_compile_panel :
    panel.AllowsByName ∧
    (compile "panel" (some { panel with denyRoles := none, denyUsers := none })).outcome
      mallory.toPrincipal = (compile "panel" (some panel)).outcome mallory.toPrincipal ∧
    (compile "panel" (some panel)).outcome mallory.toPrincipal = .granted ∧
    ¬ { panel with allowRoles := ∅ : Rule }.AllowsByName ∧
    (compile "panel" (some { panel with allowRoles := ∅ })).outcome mallory.toPrincipal ≠ .granted := by
  obtain ⟨hidle, -, hrefused⟩ := outcome_compile_denyLists "panel" mallory.toPrincipal
  have hallows : panel.AllowsByName := ⟨"admin", .inl (by decide)⟩
  have hno : ¬ { panel with allowRoles := ∅ : Rule }.AllowsByName :=
    Rule.not_allowsByName_iff.2 ⟨rfl, rfl⟩
  exact ⟨hallows, hidle panel none none hallows, by decide, hno,
    hrefused _ "mallory" hno ⟨_, .inr rfl, by decide⟩ (by decide)⟩

end Policy

end AccessPolicy
