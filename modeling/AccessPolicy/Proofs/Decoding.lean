/-
What claims, rules and settings are read from a table, in any notation: each
part is what the entry of its name says, or the default if there is none.

For every kind of record one equivalence says which result a table gives
(`readClaim_eq_ok_iff`, `readRule_eq_ok_iff`, `readLogging_eq_ok_iff`,
`readSettings_eq_ok_iff`). The keys of the table have to be different from
each other; that a key which stands there twice is an error is not part of
this.
-/
import AccessPolicy.Document.Decode
import AccessPolicy.Proofs.Records

namespace AccessPolicy.Format

variable {ν σ : Type} {F : Format ν} {x : ν} {es : List (String × ν)}

/-- A table is a record if each of its fields can be read from its entry, and
the record has no other choice than to be what its fields say. -/
theorem readRecord_eq_ok_of {name : String} {fields : List (Field ν σ)} {init r : σ} {P : σ → Prop}
    (hpass : ∀ x, F.pass x = .ok ()) (hfields : Uniform fields)
    (hx : F.record name x = .ok (.inr (Entries.ofList es))) (hes : (es.map (·.1)).Nodup)
    (hP : ∀ r', F.readRecord name fields init x = .ok r' → P r')
    (hunique : ∀ r', P r' → r' = r)
    (haccepts : ∀ f ∈ fields, ∀ y, NameMap.find f.name es = some y → Accepts f y)
    (hrequired : ∀ f ∈ fields, f.required = true → ∃ e ∈ es, e.1 = f.name) :
    F.readRecord name fields init x = .ok r := by
  have hentries : ∀ e ∈ es, ∀ f, fieldOf? fields e.1 = some f → Accepts f e.2 := by
    intro e he f hf
    obtain ⟨hmem, hname⟩ := fieldOf?_eq_some hf
    exact haccepts f hmem e.2 (hname ▸ NameMap.find_eq_some_of_nodup hes he)
  obtain ⟨r', hr'⟩ := (exists_readRecord_iff hpass hfields hx hes).2 ⟨hentries, hrequired⟩
  rw [hr', hunique r' (hP r' hr')]

/-! ## Claims -/

/-- The parts of a claim are what a table says. -/
structure ClaimReads (F : Format ν) (es : List (String × ν)) (c : Claim) : Prop where
  type : ∃ y, NameMap.find "type" es = some y ∧ F.text y = .ok c.type
  values : EntryReads F.readNames ∅ "values" es c.values

theorem claimFields_uniform : Uniform F.claimFields := by
  simp only [Uniform, claimFields, List.forall_mem_cons]
  exact ⟨⟨_, _, _, fun _ _ => rfl⟩, ⟨_, _, _, fun _ _ => rfl⟩, by simp⟩

/-- **Reading a claim.** The type has to be there. -/
theorem readClaim_eq_ok_iff (hpass : ∀ x, F.pass x = .ok ())
    (hx : F.record "Claim" x = .ok (.inr (Entries.ofList es))) (hes : (es.map (·.1)).Nodup)
    {c : Claim} : F.readClaim x = .ok c ↔ ClaimReads F es c := by
  have hparts : ∀ c, F.readClaim x = .ok c → ClaimReads F es c := by
    intro c hc
    obtain ⟨-, hrequired⟩ :=
      (exists_readRecord_iff hpass claimFields_uniform hx hes).1 ⟨c, hc⟩
    constructor
    · obtain ⟨⟨k, y⟩, hy, rfl⟩ := hrequired _ List.mem_cons_self rfl
      have hentry : EntryReads F.text "" "type" es c.type := by
        refine readRecord_entry (π := Claim.type) rfl (fun _ _ => rfl) (fun _ _ => rfl) ?_ hx hes hc
        simp only [claimFields, List.forall_mem_cons]
        exact ⟨fun h => absurd rfl h, fun _ => Takes.keeps (fun _ _ => rfl) (by intros; rfl),
          by simp⟩
      have hfind := NameMap.find_eq_some_of_nodup hes hy
      simp only [EntryReads, hfind] at hentry
      exact ⟨y, hfind, hentry⟩
    · refine readRecord_entry (π := Claim.values) rfl (fun _ _ => rfl) (fun _ _ => rfl) ?_ hx hes hc
      simp only [claimFields, List.forall_mem_cons]
      exact ⟨fun _ => Takes.keeps (fun _ _ => rfl) (by intros; rfl), fun h => absurd rfl h, by simp⟩
  refine ⟨hparts c, fun ⟨⟨y, hy, htype⟩, hvalues⟩ => ?_⟩
  refine readRecord_eq_ok_of hpass claimFields_uniform hx hes hparts ?_ ?_ ?_
  · rintro c' ⟨⟨y', hy', htype'⟩, hvalues'⟩
    cases c
    cases c'
    cases hy.symm.trans hy'
    cases htype.symm.trans htype'
    cases hvalues'.unique hvalues
    rfl
  · simp only [claimFields, List.forall_mem_cons]
    refine ⟨fun z hz => ?_, fun _ => hvalues.accepts fun _ _ => rfl, by simp⟩
    cases hy.symm.trans hz
    exact Takes.accepts (fun _ _ => rfl) htype
  · simp only [claimFields, List.forall_mem_cons]
    exact ⟨fun _ => ⟨_, NameMap.mem_of_find hy, rfl⟩, by simp, by simp⟩

/-! ## Rules -/

/-- The parts of a rule are what a table says. -/
structure RuleReads (F : Format ν) (es : List (String × ν)) (r : Rule) : Prop where
  allowRoles : EntryReads F.readNames ∅ "allow_roles" es r.allowRoles
  allowUsers : EntryReads F.readNames ∅ "allow_users" es r.allowUsers
  denyRoles : EntryReads (F.readOption F.readNames) none "deny_roles" es r.denyRoles
  denyUsers : EntryReads (F.readOption F.readNames) none "deny_users" es r.denyUsers
  allowClaim : EntryReads (F.readOption F.readClaim) none "allow_claim" es r.allowClaim
  allowClaims :
    EntryReads (F.readOption (F.readList F.readClaim)) none "allow_claims" es r.allowClaims

theorem ruleFields_uniform : Uniform F.ruleFields := by
  simp only [Uniform, ruleFields, List.forall_mem_cons]
  refine ⟨?_, ?_, ?_, ?_, ?_, ?_, by simp⟩ <;> exact ⟨_, _, _, fun _ _ => rfl⟩

/-- What a field of a rule leaves as it was: the parts of all other names. -/
structure RuleKept (name : String) (r r' : Rule) : Prop where
  allowRoles : name ≠ "allow_roles" → r'.allowRoles = r.allowRoles
  allowUsers : name ≠ "allow_users" → r'.allowUsers = r.allowUsers
  denyRoles : name ≠ "deny_roles" → r'.denyRoles = r.denyRoles
  denyUsers : name ≠ "deny_users" → r'.denyUsers = r.denyUsers
  allowClaim : name ≠ "allow_claim" → r'.allowClaim = r.allowClaim
  allowClaims : name ≠ "allow_claims" → r'.allowClaims = r.allowClaims

theorem ruleFields_kept : ∀ f ∈ F.ruleFields, ∀ x r r', f.read x r = .ok r' → RuleKept f.name r r' := by
  simp only [ruleFields, List.forall_mem_cons]
  refine ⟨?_, ?_, ?_, ?_, ?_, ?_, by simp⟩ <;>
  · intro x r r' h
    obtain ⟨a, -, h⟩ := Except.bind_eq_ok.1 h
    cases Except.pure_eq_ok.1 h
    constructor <;> intro hne <;> first | rfl | exact absurd rfl hne

theorem ruleReads_of_readRule (hx : F.record "PolicyRule" x = .ok (.inr (Entries.ofList es)))
    (hes : (es.map (·.1)).Nodup) {r : Rule} (hr : F.readRule x = .ok r) : RuleReads F es r := by
  constructor
  · exact readRecord_entry (π := Rule.allowRoles) rfl (fun _ _ => rfl) (fun _ _ => rfl)
      (fun f hf hne x r r' h => (ruleFields_kept f hf x r r' h).allowRoles hne) hx hes hr
  · exact readRecord_entry (π := Rule.allowUsers) rfl (fun _ _ => rfl) (fun _ _ => rfl)
      (fun f hf hne x r r' h => (ruleFields_kept f hf x r r' h).allowUsers hne) hx hes hr
  · exact readRecord_entry (π := Rule.denyRoles) rfl (fun _ _ => rfl) (fun _ _ => rfl)
      (fun f hf hne x r r' h => (ruleFields_kept f hf x r r' h).denyRoles hne) hx hes hr
  · exact readRecord_entry (π := Rule.denyUsers) rfl (fun _ _ => rfl) (fun _ _ => rfl)
      (fun f hf hne x r r' h => (ruleFields_kept f hf x r r' h).denyUsers hne) hx hes hr
  · exact readRecord_entry (π := Rule.allowClaim) rfl (fun _ _ => rfl) (fun _ _ => rfl)
      (fun f hf hne x r r' h => (ruleFields_kept f hf x r r' h).allowClaim hne) hx hes hr
  · exact readRecord_entry (π := Rule.allowClaims) rfl (fun _ _ => rfl) (fun _ _ => rfl)
      (fun f hf hne x r r' h => (ruleFields_kept f hf x r r' h).allowClaims hne) hx hes hr

/-- **Reading a rule.** -/
theorem readRule_eq_ok_iff (hpass : ∀ x, F.pass x = .ok ())
    (hx : F.record "PolicyRule" x = .ok (.inr (Entries.ofList es))) (hes : (es.map (·.1)).Nodup)
    {r : Rule} : F.readRule x = .ok r ↔ RuleReads F es r := by
  refine ⟨ruleReads_of_readRule hx hes, fun h => ?_⟩
  refine readRecord_eq_ok_of hpass ruleFields_uniform hx hes
    (fun r' hr' => ruleReads_of_readRule hx hes hr') ?_ ?_ ?_
  · intro r' h'
    cases r
    cases r'
    cases h'.allowRoles.unique h.allowRoles
    cases h'.allowUsers.unique h.allowUsers
    cases h'.denyRoles.unique h.denyRoles
    cases h'.denyUsers.unique h.denyUsers
    cases h'.allowClaim.unique h.allowClaim
    cases h'.allowClaims.unique h.allowClaims
    rfl
  · simp only [ruleFields, List.forall_mem_cons]
    exact ⟨fun _ => h.allowRoles.accepts fun _ _ => rfl, fun _ => h.allowUsers.accepts fun _ _ => rfl,
      fun _ => h.denyRoles.accepts fun _ _ => rfl, fun _ => h.denyUsers.accepts fun _ _ => rfl,
      fun _ => h.allowClaim.accepts fun _ _ => rfl, fun _ => h.allowClaims.accepts fun _ _ => rfl,
      by simp⟩
  · simp [ruleFields]

/-! ## Settings -/

/-- The parts of the logging settings are what a table says. -/
structure LoggingReads (F : Format ν) (es : List (String × ν)) (l : Logging) : Prop where
  level : EntryReads F.text "warn" "level" es l.level
  audit : EntryReads F.bool true "audit" es l.audit

theorem loggingFields_uniform : Uniform F.loggingFields := by
  simp only [Uniform, loggingFields, List.forall_mem_cons]
  exact ⟨⟨_, _, _, fun _ _ => rfl⟩, ⟨_, _, _, fun _ _ => rfl⟩, by simp⟩

/-- **Reading the logging settings.** -/
theorem readLogging_eq_ok_iff (hpass : ∀ x, F.pass x = .ok ())
    (hx : F.record "LoggingConfig" x = .ok (.inr (Entries.ofList es)))
    (hes : (es.map (·.1)).Nodup) {l : Logging} :
    F.readLogging x = .ok l ↔ LoggingReads F es l := by
  have hparts : ∀ l, F.readLogging x = .ok l → LoggingReads F es l := by
    intro l hl
    constructor
    · refine readRecord_entry (π := Logging.level) rfl (fun _ _ => rfl) (fun _ _ => rfl) ?_ hx hes hl
      simp only [loggingFields, List.forall_mem_cons]
      exact ⟨fun h => absurd rfl h, fun _ => Takes.keeps (fun _ _ => rfl) (by intros; rfl), by simp⟩
    · refine readRecord_entry (π := Logging.audit) rfl (fun _ _ => rfl) (fun _ _ => rfl) ?_ hx hes hl
      simp only [loggingFields, List.forall_mem_cons]
      exact ⟨fun _ => Takes.keeps (fun _ _ => rfl) (by intros; rfl), fun h => absurd rfl h, by simp⟩
  refine ⟨hparts l, fun ⟨hlevel, haudit⟩ => ?_⟩
  refine readRecord_eq_ok_of hpass loggingFields_uniform hx hes hparts ?_ ?_ ?_
  · rintro l' ⟨hlevel', haudit'⟩
    cases l
    cases l'
    cases hlevel'.unique hlevel
    cases haudit'.unique haudit
    rfl
  · simp only [loggingFields, List.forall_mem_cons]
    exact ⟨fun _ => hlevel.accepts fun _ _ => rfl, fun _ => haudit.accepts fun _ _ => rfl, by simp⟩
  · simp [loggingFields]

/-- The parts of the settings are what a table says. -/
structure SettingsReads (F : Format ν) (es : List (String × ν)) (s : Settings) : Prop where
  locked : EntryReads F.readNames ∅ "locked" es s.locked
  logging : EntryReads F.readLogging {} "logging" es s.logging
  policies : EntryReads (F.readMap F.readRule) ∅ "policies" es s.policies

theorem settingsFields_uniform : Uniform F.settingsFields := by
  simp only [Uniform, settingsFields, List.forall_mem_cons]
  exact ⟨⟨_, _, _, fun _ _ => rfl⟩, ⟨_, _, _, fun _ _ => rfl⟩, ⟨_, _, _, fun _ _ => rfl⟩, by simp⟩

/-- What a field of the settings leaves as it was: the parts of all other names. -/
structure SettingsKept (name : String) (s s' : Settings) : Prop where
  locked : name ≠ "locked" → s'.locked = s.locked
  logging : name ≠ "logging" → s'.logging = s.logging
  policies : name ≠ "policies" → s'.policies = s.policies

theorem settingsFields_kept :
    ∀ f ∈ F.settingsFields, ∀ x s s', f.read x s = .ok s' → SettingsKept f.name s s' := by
  simp only [settingsFields, List.forall_mem_cons]
  refine ⟨?_, ?_, ?_, by simp⟩ <;>
  · intro x s s' h
    obtain ⟨a, -, h⟩ := Except.bind_eq_ok.1 h
    cases Except.pure_eq_ok.1 h
    constructor <;> intro hne <;> first | rfl | exact absurd rfl hne

/-- **Reading settings.** -/
theorem readSettings_eq_ok_iff (hpass : ∀ x, F.pass x = .ok ())
    (hx : F.record "WardenConfig" x = .ok (.inr (Entries.ofList es)))
    (hes : (es.map (·.1)).Nodup) {s : Settings} :
    F.readSettings x = .ok s ↔ SettingsReads F es s := by
  have hparts : ∀ s, F.readSettings x = .ok s → SettingsReads F es s := by
    intro s hs
    constructor
    · exact readRecord_entry (π := Settings.locked) rfl (fun _ _ => rfl) (fun _ _ => rfl)
        (fun f hf hne x s s' h => (settingsFields_kept f hf x s s' h).locked hne) hx hes hs
    · exact readRecord_entry (π := Settings.logging) rfl (fun _ _ => rfl) (fun _ _ => rfl)
        (fun f hf hne x s s' h => (settingsFields_kept f hf x s s' h).logging hne) hx hes hs
    · exact readRecord_entry (π := Settings.policies) rfl (fun _ _ => rfl) (fun _ _ => rfl)
        (fun f hf hne x s s' h => (settingsFields_kept f hf x s s' h).policies hne) hx hes hs
  refine ⟨hparts s, fun h => ?_⟩
  refine readRecord_eq_ok_of hpass settingsFields_uniform hx hes hparts ?_ ?_ ?_
  · intro s' h'
    cases s
    cases s'
    cases h'.locked.unique h.locked
    cases h'.logging.unique h.logging
    cases h'.policies.unique h.policies
    rfl
  · simp only [settingsFields, List.forall_mem_cons]
    exact ⟨fun _ => h.locked.accepts fun _ _ => rfl, fun _ => h.logging.accepts fun _ _ => rfl,
      fun _ => h.policies.accepts fun _ _ => rfl, by simp⟩
  · simp [settingsFields]

end AccessPolicy.Format
