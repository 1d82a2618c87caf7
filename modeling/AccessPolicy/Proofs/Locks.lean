/-
From settings to decisions: the registry that the declared policies and the
locked names amount to, and what its compiled policies decide.

The registry is collected from the policies and then the locks, and of two
entries of one name the later counts, so a name that is both would lose its
rule without a trace. Such settings are refused (`policySet_eq_error_iff`).
Without a clash each name has the one entry that it is declared with
(`policySet_eq_ok`), and `policySet_enforced` carries that through to the
decisions.
-/
import AccessPolicy.Settings
import AccessPolicy.Proofs.Registrations

namespace AccessPolicy.Settings

variable {c : Settings} {set : PolicySet} {name : String}

/-! ## Clashes -/

/-- The name is locked and has a rule as well. -/
def Clash (c : Settings) (name : String) : Prop :=
  name ∈ c.locked ∧ ∃ rule, c.policies.get? name = some rule

theorem clash?_eq_some_iff :
    c.clash? = some name ↔ c.Clash name ∧ ∀ other, c.Clash other → name ≤ other := by
  rw [clash?, NameSet.find?_toList]
  simp only [Clash, NameMap.contains_iff]
  constructor
  · rintro ⟨hlocked, hrule, hmin⟩
    exact ⟨⟨hlocked, hrule⟩, fun other hother => hmin other hother.1 hother.2⟩
  · rintro ⟨⟨hlocked, hrule⟩, hmin⟩
    exact ⟨hlocked, hrule, fun other hother hrule => hmin other ⟨hother, hrule⟩⟩

theorem clash?_eq_none_iff : c.clash? = none ↔ ∀ name, ¬ c.Clash name := by
  rw [clash?, List.find?_eq_none]
  simp only [Clash, not_and, ← NameMap.contains_iff]
  rfl

/-- Settings are refused with the smallest name that is declared twice. -/
theorem policySet_eq_error_iff :
    c.policySet = .error name ↔ c.Clash name ∧ ∀ other, c.Clash other → name ≤ other := by
  rw [← clash?_eq_some_iff, policySet]
  cases c.clash? <;> simp

theorem exists_policySet_eq_ok_iff : (∃ set, c.policySet = .ok set) ↔ ∀ name, ¬ c.Clash name := by
  rw [← clash?_eq_none_iff, policySet]
  cases c.clash? <;> simp

/-! ## The entry of a name -/

/-- A name that is locked is not declared as well. -/
theorem get?_eq_none_of_locked (h : c.policySet = .ok set) (hlocked : name ∈ c.locked) :
    c.policies.get? name = none := by
  have hclash := exists_policySet_eq_ok_iff.1 ⟨set, h⟩ name
  rw [Option.eq_none_iff_forall_ne_some]
  exact fun rule hrule => hclash ⟨hlocked, rule, hrule⟩

theorem policySet_eq_ok (h : c.policySet = .ok set) (name : String) :
    set.get? name = match c.policies.get? name with
      | some rule => some (some rule)
      | none => if name ∈ c.locked then some none else none := by
  have hlocked : NameMap.last? name (c.locked.toList.map fun n => (n, (none : Option Rule))) =
      if name ∈ c.locked then some none else none := NameMap.last?_map_const name _ _
  have hpolicies : NameMap.last? name (c.policies.toList.map fun e => (e.1, some e.2)) =
      (c.policies.get? name).map some := by
    rw [NameMap.last?_map (fun _ => some), NameMap.last?_toList]
  have hset : set = .ofList (c.policies.toList.map (fun e => (e.1, some e.2))
      ++ c.locked.toList.map fun n => (n, none)) := by
    rw [policySet] at h
    split at h
    · cases h
    · exact (Except.ok.inj h).symm
  have hget : set.get? name = (if name ∈ c.locked then some none else none).or
      ((c.policies.get? name).map some) := by
    rw [hset, PolicySet.get?, PolicySet.ofList, NameMap.get?_ofList, NameMap.last?_append, hlocked,
      hpolicies]
  rw [hget]
  -- The locks come last, so on a clash they would win; there is none.
  by_cases hmem : name ∈ c.locked
  · rw [get?_eq_none_of_locked h hmem, if_pos hmem]
    rfl
  · rw [if_neg hmem, Option.none_or]
    cases c.policies.get? name <;> rfl

theorem get?_eq_rule_iff (h : c.policySet = .ok set) {rule : Rule} :
    set.get? name = some (some rule) ↔ c.policies.get? name = some rule := by
  rw [policySet_eq_ok h]
  cases c.policies.get? name with
  | some _ => simp
  | none => by_cases hmem : name ∈ c.locked <;> simp [hmem]

theorem get?_eq_locked_iff (h : c.policySet = .ok set) :
    set.get? name = some none ↔ name ∈ c.locked := by
  rw [policySet_eq_ok h]
  cases hget : c.policies.get? name with
  | some rule =>
    have hmem : name ∉ c.locked := fun hlocked => by
      rw [get?_eq_none_of_locked h hlocked] at hget
      cases hget
    simp [hmem]
  | none => by_cases hmem : name ∈ c.locked <;> simp [hmem]

theorem get?_eq_none_iff (h : c.policySet = .ok set) :
    set.get? name = none ↔ name ∉ c.locked ∧ c.policies.get? name = none := by
  rw [policySet_eq_ok h]
  cases c.policies.get? name with
  | some _ => simp
  | none => by_cases hmem : name ∈ c.locked <;> simp [hmem]

/-! ## The number of entries -/

/-- Everything that is declared, with or without a rule. -/
def declaredNames (c : Settings) : List String := c.locked.toList ++ c.policies.keys

theorem nodup_declaredNames (h : ∀ name, ¬ c.Clash name) : c.declaredNames.Nodup := by
  rw [declaredNames, List.nodup_append]
  refine ⟨c.locked.nodup_toList, c.policies.nodup_keys, ?_⟩
  rintro name hlocked _ hkey rfl
  exact h name ⟨hlocked, NameMap.contains_iff.1 (NameMap.mem_keys.1 hkey)⟩

theorem mem_names_policySet (h : c.policySet = .ok set) :
    name ∈ set.entries.keys ↔ name ∈ c.declaredNames := by
  rw [PolicySet.mem_names_iff, declaredNames, List.mem_append, NameMap.mem_keys, NameMap.contains_iff,
    ← NameSet.mem_def]
  constructor
  · rintro ⟨_ | rule, hentry⟩
    · exact .inl ((get?_eq_locked_iff h).1 hentry)
    · exact .inr ⟨rule, (get?_eq_rule_iff h).1 hentry⟩
  · rintro (hlocked | ⟨rule, hrule⟩)
    · exact ⟨none, (get?_eq_locked_iff h).2 hlocked⟩
    · exact ⟨some rule, (get?_eq_rule_iff h).2 hrule⟩

/-- No name is lost, and none stands for two entries. -/
theorem size_policySet (h : c.policySet = .ok set) : set.size = c.locked.size + c.policies.size := by
  have hnodup := nodup_declaredNames (exists_policySet_eq_ok_iff.1 ⟨set, h⟩)
  rw [PolicySet.size, NameMap.size_eq_card fun _ => mem_names_policySet h,
    List.toFinset_card_of_nodup hnodup, declaredNames, List.length_append, NameMap.keys,
    List.length_map, NameSet.size, NameMap.size]

/-! ## From settings to decisions -/

/-- A registry that holds what the settings declare, every name once and as
what it is declared, and whose compiled policies decide accordingly. -/
structure Enforced (c : Settings) (set : PolicySet) : Prop where
  size : set.size = c.locked.size + c.policies.size
  rule : ∀ name rule, set.get? name = some (some rule) ↔ c.policies.get? name = some rule
  lock : ∀ name, set.get? name = some none ↔ name ∈ c.locked
  compiledSize : set.compile.size = c.locked.size + c.policies.size
  names : ∀ name, name ∈ set.compile.names ↔ name ∈ c.locked ∨ name ∈ c.policies.keys
  refuses : ∀ name ∈ c.locked, ∀ p, set.compile.authorize name p =
    .ok ⟨name, if p.authenticated then .locked else .unauthenticated⟩
  decides : ∀ name rule, c.policies.get? name = some rule → ∀ p, ∃ o, Verdict p (some rule) o ∧
    set.compile.authorize name p = .ok ⟨name, o⟩
  unknown : ∀ name p, set.compile.authorize name p = .error (.unknownPolicy name) ↔
    name ∉ c.locked ∧ name ∉ c.policies.keys

theorem enforced_of_policySet (h : c.policySet = .ok set) : c.Enforced set where
  size := size_policySet h
  rule _ _ := get?_eq_rule_iff h
  lock _ := get?_eq_locked_iff h
  compiledSize := (PolicySet.size_compile set).trans (size_policySet h)
  names name := by
    rw [PolicySet.mem_names_compile, ← PolicySet.mem_names_iff, mem_names_policySet h, declaredNames,
      List.mem_append, ← NameSet.mem_def]
  refuses name hlocked p := by
    rw [PolicySet.authorize_compile, (get?_eq_locked_iff h).2 hlocked]
    simp only [Policy.evaluate, Policy.name_compile, Policy.outcome_compile_none]
  decides name rule hrule p := by
    obtain ⟨o, ho⟩ := exists_verdict (some rule) p
    refine ⟨o, ho, ?_⟩
    rw [PolicySet.authorize_compile, (get?_eq_rule_iff h).2 hrule,
      ← Policy.outcome_of_verdict name ho]
    simp only [Policy.evaluate, Policy.name_compile]
  unknown name p := by
    have hkey : name ∉ c.policies.keys ↔ c.policies.get? name = none := by
      rw [NameMap.mem_keys, NameMap.contains, Bool.not_eq_true, Option.isSome_eq_false_iff,
        Option.isNone_iff_eq_none]
    rw [PolicySet.authorize_compile, hkey, ← get?_eq_none_iff h]
    cases set.get? name <;> simp

/-- **Locks survive up to the decisions.** Settings are refused exactly if some
name is both locked and declared, with the smallest such name. All others have
a registry in which every locked name is without a rule and every declared one
has its own, and nothing else: locked names refuse everybody, declared ones
decide by their rule, and any other name is unknown. -/
theorem policySet_enforced (c : Settings) :
    (∀ name, c.policySet = .error name ↔ c.Clash name ∧ ∀ other, c.Clash other → name ≤ other) ∧
    ((∃ name, c.policySet = .error name) ↔ ∃ name, c.Clash name) ∧
    ((∀ name, ¬ c.Clash name) → ∃ set, c.policySet = .ok set ∧ c.Enforced set) := by
  refine ⟨fun name => policySet_eq_error_iff, ?_, fun hclash => ?_⟩
  · rw [← not_iff_not, not_exists (p := c.Clash), ← exists_policySet_eq_ok_iff]
    cases c.policySet <;> simp
  · obtain ⟨set, hset⟩ := exists_policySet_eq_ok_iff.2 hclash
    exact ⟨set, hset, enforced_of_policySet hset⟩

/-- Of two clashing names the smaller one is reported. -/
example : policySet
    { locked := .ofList ["ops", "hr", "it"], policies := .ofList [("ops", {}), ("it", {})] } =
      .error "it" := by
  decide

end AccessPolicy.Settings
