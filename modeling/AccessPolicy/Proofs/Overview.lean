/-
What the settings in short say about whom a policy lets in.

The line of a policy is made from the names that its rule allows and from
nothing else. If it lists names, nobody else gets in (`not_granted_of_listed`).
If it says that anybody does who is authenticated, that is the whole truth only
if the rule denies nobody and requires no claim; otherwise the deny lists, which
count just then, and the claims still keep somebody out. `overview_tells` says
who gets in, and `overview_doorman` is a policy whose line says too much.
-/
import AccessPolicy.Command.Show
import AccessPolicy.Proofs.Extremes

namespace AccessPolicy

namespace Command

/-- What the line of a policy says if it lists no names. -/
def everyone : String := "any authenticated principal"

/-- The line of a policy. -/
def summaryLine (name : String) (r : Rule) : Terminal.Line := Terminal.labelled name (summary r)

/-! ## The line of a policy -/

theorem summary_of_isEmpty {r : Rule} (h : r.allowed.toList = []) : summary r = everyone := by
  have hempty : r.allowed.isEmpty = true := List.isEmpty_iff.2 h
  rw [summary, if_pos hempty]
  rfl

theorem summary_of_listed {r : Rule} (h : r.allowed.toList ≠ []) :
    summary r = ", ".intercalate r.allowed.toList := by
  have hempty : ¬ r.allowed.isEmpty = true := fun hempty => h (List.isEmpty_iff.1 hempty)
  rw [summary, if_neg hempty]

/-- Two names or more have a comma between them. -/
theorem comma_mem_intercalate (a b : String) (l : List String) :
    ',' ∈ (", ".intercalate (a :: b :: l)).toList := by
  rw [String.intercalate_cons_cons]
  simp

/-- The line says that anybody gets in if no name is allowed, or if that is the
name of the only one who is. -/
theorem summary_eq_everyone_iff {r : Rule} :
    summary r = everyone ↔ r.allowed.toList = [] ∨ r.allowed.toList = [everyone] := by
  cases hnames : r.allowed.toList with
  | nil => simp [summary_of_isEmpty hnames]
  | cons a l =>
    have hlisted : summary r = ", ".intercalate (a :: l) := by
      rw [← hnames]
      exact summary_of_listed (by simp [hnames])
    rw [hlisted]
    cases l with
    | nil => simp
    | cons b l =>
      have hcomma := comma_mem_intercalate a b l
      have hne : ", ".intercalate (a :: b :: l) ≠ everyone := by
        intro heq
        rw [heq] at hcomma
        exact absurd hcomma (by decide)
      exact iff_of_false hne (by simp)

theorem summaryLine_mem_overview {c : Settings} {name : String} {r : Rule}
    (h : c.policies.get? name = some r) : summaryLine name r ∈ overview c := by
  have hmem : (name, r) ∈ c.policies.toList := NameMap.get?_eq_some.1 h
  have hline : summaryLine name r ∈
      c.policies.toList.map fun e => Terminal.labelled e.1 (summary e.2) :=
    List.mem_map.2 ⟨(name, r), hmem, rfl⟩
  unfold overview
  simp only [List.mem_append]
  exact .inl (.inr hline)

/-! ## Who gets in -/

theorem allowsByName_iff_listed {r : Rule} : r.AllowsByName ↔ r.allowed.toList ≠ [] := by
  have hmem : ∀ n, n ∈ r.allowed.toList ↔ n ∈ r.allowRoles ∨ n ∈ r.allowUsers := by
    intro n
    rw [← NameSet.mem_def]
    exact NameSet.mem_union
  simp only [Rule.AllowsByName, ← hmem, ne_eq, List.eq_nil_iff_forall_not_mem, not_forall,
    Classical.not_not]

/-- If no name is allowed, everybody gets in who is authenticated, on no deny
list, and meets the claims. -/
theorem granted_iff_of_not_listed {name : String} {r : Rule} (h : r.allowed.toList = [])
    (p : Principal) : (Policy.compile name (some r)).outcome p = .granted ↔
      p.authenticated = true ∧ (∀ n, r.Denies n → p.isMemberOf n = false) ∧ r.MeetsClaims p := by
  have hno : ¬ r.AllowsByName := fun hallows => allowsByName_iff_listed.1 hallows h
  rw [Policy.outcome_compile_eq_granted_iff, Rule.grants_iff_of_not_allowsByName hno]

/-- Whoever is none of the listed names does not get in. -/
theorem not_granted_of_listed {name : String} {r : Rule} (h : r.allowed.toList ≠ []) {p : Principal}
    (hp : ∀ n ∈ r.allowed.toList, p.isMemberOf n = false) :
    (Policy.compile name (some r)).outcome p ≠ .granted := by
  intro hgranted
  have hgrants := (Policy.outcome_compile_eq_granted_iff name).1 hgranted
  obtain ⟨-, ⟨n, hn, hmember⟩, -⟩ :=
    (Rule.grants_iff_of_allowsByName (allowsByName_iff_listed.2 h)).1 hgrants
  have hlisted : n ∈ r.allowed.toList := by
    rw [← NameSet.mem_def]
    exact NameSet.mem_union.2 hn
  rw [hp n hlisted] at hmember
  cases hmember

/-- What the line of a policy tells about it. The first three fields are about a
line that says that anybody gets in and does not mean somebody of that name. -/
structure LineTells (line : String) (r : Rule) (policy : Policy) : Prop where
  /-- Who gets in then. -/
  anybody : line = everyone → r.allowed.toList ≠ [everyone] → ∀ p, policy.outcome p = .granted ↔
    p.authenticated = true ∧ (∀ n, r.Denies n → p.isMemberOf n = false) ∧ r.MeetsClaims p
  /-- So everybody does, if nobody is denied and no claim is required. -/
  everybody : line = everyone → r.allowed.toList ≠ [everyone] → (∀ n, ¬ r.Denies n) →
    r.requiredClaims = [] → ∀ p, p.authenticated = true → policy.outcome p = .granted
  /-- Other rules keep somebody out. -/
  somebody : line = everyone → r.allowed.toList ≠ [everyone] →
    ((∃ n, r.Denies n) ∨ r.requiredClaims ≠ []) →
    ∃ p, p.authenticated = true ∧ policy.outcome p ≠ .granted
  /-- A line that lists names lists all that are allowed, and nobody else gets in. -/
  listed : r.allowed.toList ≠ [] → line = ", ".intercalate r.allowed.toList ∧
    ∀ p, (∀ n ∈ r.allowed.toList, p.isMemberOf n = false) → policy.outcome p ≠ .granted

theorem lineTells_summary (name : String) (r : Rule) :
    LineTells (summary r) r (.compile name (some r)) := by
  have hnone : summary r = everyone → r.allowed.toList ≠ [everyone] → r.allowed.toList = [] :=
    fun hline hname => (summary_eq_everyone_iff.1 hline).resolve_right hname
  have hasks : r.allowed.toList = [] → ((∀ p, p.authenticated = true →
      (Policy.compile name (some r)).outcome p = .granted) ↔
      (∀ n, ¬ r.Denies n) ∧ r.requiredClaims = []) := by
    intro hempty
    have hno : ¬ r.AllowsByName := fun hallows => allowsByName_iff_listed.1 hallows hempty
    rw [Policy.grants_everybody_iff]
    constructor
    · intro h
      obtain ⟨r', hr', hnothing⟩ := h
      cases hr'
      exact ⟨hnothing.denies, hnothing.claims⟩
    · intro h
      exact ⟨r, rfl, hno, h.1, h.2⟩
  constructor
  · intro hline hname p
    exact granted_iff_of_not_listed (hnone hline hname) p
  · intro hline hname hdenies hclaims
    exact (hasks (hnone hline hname)).2 ⟨hdenies, hclaims⟩
  · intro hline hname hasked
    by_contra hall
    have hgranted : ∀ p, p.authenticated = true →
        (Policy.compile name (some r)).outcome p = .granted := by
      intro p hp
      by_contra hp'
      exact hall ⟨p, hp, hp'⟩
    obtain ⟨hdenies, hclaims⟩ := (hasks (hnone hline hname)).1 hgranted
    rcases hasked with hdenied | hrequired
    · obtain ⟨n, hn⟩ := hdenied
      exact hdenies n hn
    · exact hrequired hclaims
  · intro hlisted
    exact ⟨summary_of_listed hlisted, fun p hp => not_granted_of_listed hlisted hp⟩

/-! ## The settings in short -/

/-- **What the settings in short tell.** They have a line for each policy that is
loaded. If it lists names, nobody gets in who is none of them. If it says that
anybody gets in who is authenticated, these do who are on no deny list and meet
the claims: all of them, if the rule denies nobody and requires no claim, and
not all otherwise. -/
theorem overview_tells (stack : Stack) (c : Settings) (hload : stack.load = .ok c) (name : String)
    (r : Rule) (hr : c.policies.get? name = some r) :
    summaryLine name r ∈ (showSettings stack "text").out ∧
      LineTells (summary r) r (.compile name (some r)) := by
  have hout : (showSettings stack "text").out = overview c := by
    unfold showSettings
    simp only [hload]
  rw [hout]
  exact ⟨summaryLine_mem_overview hr, lineTells_summary name r⟩

/-- A rule that denies a role and allows nobody by name. -/
def doorman : Rule where
  denyRoles := some (.ofList ["contractor"])

/-- Settings that declare a policy with this rule. -/
def guarded : Stack where
  project := some (Text.toBytes "policies.ops.deny_roles = ['contractor']")

theorem load_guarded : guarded.load = .ok { policies := .ofList [("ops", doorman)] } := by
  decide +kernel

theorem overview_guarded :
    (guarded.load = .ok { policies := .ofList [("ops", doorman)] } ∧
      (NameMap.ofList [("ops", doorman)]).get? "ops" = some doorman) ∧
    summaryLine "ops" doorman ∈ (showSettings guarded "text").out ∧
    LineTells (summary doorman) doorman (.compile "ops" (some doorman)) :=
  ⟨⟨load_guarded, rfl⟩, overview_tells guarded _ load_guarded "ops" doorman rfl⟩

/-- The line of a policy that keeps contractors out says that anybody gets in. -/
theorem overview_doorman :
    guarded.load = .ok { policies := .ofList [("ops", doorman)] } ∧
    [⟨.plain, "  "⟩, ⟨.muted, "ops"⟩, ⟨.plain, ": any authenticated principal"⟩] ∈
      (showSettings guarded "text").out ∧
    ((Identity.user "ann").withRole "contractor").authenticated = true ∧
    (Policy.compile "ops" (some doorman)).outcome
      ((Identity.user "ann").withRole "contractor").toPrincipal = .deniedRole "contractor" := by
  refine ⟨load_guarded, ?_, rfl, ?_⟩ <;> decide +kernel

end Command

end AccessPolicy
