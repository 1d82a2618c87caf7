/-
What it means that a check succeeds: the exit code of the command, for all
files, surroundings and command lines that name a policy and a principal.

`Passes` is what has to hold, read off the settings and the rule as they are
written; `Invocation.run_check` says that the code is zero exactly then. That
loading goes by layers, and what a rule asks of an identity, is said
elsewhere (`Stack.load_of_wellShaped`, `Rule.Grants`).
-/
import AccessPolicy.Proofs.Identities
import AccessPolicy.Proofs.Locks
import AccessPolicy.Proofs.Records
import AccessPolicy.Proofs.Runs
import AccessPolicy.Proofs.UnsetVariables

namespace AccessPolicy.Command

open Identity (foldl_withRole mem_foldl_withRole)
open Settings (get?_eq_none_of_locked policySet_eq_ok)

/-! ## The principal on the command line -/

/-- A claim as it is written: its type, which is not empty, up to the first
equals sign, and its value after that. -/
structure Spells (written : String) (c : HeldClaim) : Prop where
  text : written = c.type ++ "=" ++ c.value
  type_ne : c.type ≠ ""
  first : '=' ∉ c.type.toList

/-- The identity that the options describe: its user, the set of the roles, and
the claims in their order. It is authenticated unless it is anonymous. -/
structure PrincipalOptions.Describes (p : PrincipalOptions) (i : Identity) : Prop where
  user : i.userId = p.user
  authenticated : i.authenticated = !p.anonymous
  roles : ∀ role, role ∈ i.roles ↔ role ∈ p.roles
  claims : List.Forall₂ Spells p.claims i.claims

theorem splitClaim?_eq_some_iff {written type value : String} :
    splitClaim? written = some (type, value) ↔ Spells written ⟨type, value⟩ := by
  have hspan := List.takeWhile_append_dropWhile (p := (· != '=')) (l := written.toList)
  constructor
  · intro h
    simp only [splitClaim?] at h
    split at h
    · rename_i c cs d ds htake hdrop
      cases h
      have hd : d = '=' := by
        have hhead := List.head?_dropWhile_not (· != '=') written.toList
        simpa [hdrop] using hhead
      rw [htake, hdrop, hd] at hspan
      refine ⟨?_, by simp, ?_⟩
      · apply String.toList_injective
        simp [← hspan]
      · intro hmem
        rw [String.toList_ofList, ← htake] at hmem
        have hall := List.all_takeWhile (p := (· != '=')) (l := written.toList)
        simpa using List.all_eq_true.1 hall _ hmem
    · cases h
  · rintro ⟨htext, hne, hfirst⟩
    have hlist : written.toList = type.toList ++ '=' :: value.toList := by
      rw [htext]
      simp
    have hall : ∀ c ∈ type.toList, (c != '=') = true := by
      intro c hc
      rw [bne_iff_ne]
      rintro rfl
      exact hfirst hc
    have hchars : type.toList ≠ [] := fun hnil => hne (String.toList_injective hnil)
    obtain ⟨c, cs, hcs⟩ := List.exists_cons_of_ne_nil hchars
    have htake : written.toList.takeWhile (· != '=') = type.toList := by
      rw [hlist, List.takeWhile_append_of_pos hall]
      simp
    have hdrop : written.toList.dropWhile (· != '=') = '=' :: value.toList := by
      rw [hlist, List.dropWhile_append_of_pos hall]
      simp
    simp only [splitClaim?, htake, hdrop, hcs]
    rw [← hcs, String.ofList_toList, String.ofList_toList]

theorem addClaim_eq_ok_iff {i j : Identity} {written : String} :
    addClaim i written = .ok j ↔
      ∃ c, Spells written c ∧ j = { i with claims := i.claims ++ [c] } := by
  rw [addClaim]
  cases h : splitClaim? written with
  | none =>
    refine ⟨nofun, ?_⟩
    rintro ⟨c, hc, -⟩
    rw [splitClaim?_eq_some_iff.2 hc] at h
    cases h
  | some c =>
    obtain ⟨type, value⟩ := c
    constructor
    · intro hj
      cases hj
      exact ⟨⟨type, value⟩, splitClaim?_eq_some_iff.1 h, rfl⟩
    · rintro ⟨c, hc, rfl⟩
      rw [splitClaim?_eq_some_iff.2 hc] at h
      cases h
      rfl

theorem foldlM_addClaim_eq_ok_iff : ∀ {claims : List String} {i j : Identity},
    claims.foldlM addClaim i = .ok j ↔
      ∃ cs, List.Forall₂ Spells claims cs ∧ j = { i with claims := i.claims ++ cs }
  | [], i, j => by
    constructor
    · intro h
      cases h
      exact ⟨[], .nil, by simp⟩
    · rintro ⟨cs, hcs, rfl⟩
      cases hcs
      rw [List.append_nil]
      rfl
  | written :: claims, i, j => by
    rw [List.foldlM_cons, Except.bind_eq_ok]
    constructor
    · rintro ⟨i', hi', hj⟩
      obtain ⟨c, hc, rfl⟩ := addClaim_eq_ok_iff.1 hi'
      obtain ⟨cs, hcs, rfl⟩ := foldlM_addClaim_eq_ok_iff.1 hj
      exact ⟨c :: cs, .cons hc hcs, by simp⟩
    · rintro ⟨cs, hcs, rfl⟩
      cases hcs with
      | cons hc hcs =>
        exact ⟨_, addClaim_eq_ok_iff.2 ⟨_, hc, rfl⟩, foldlM_addClaim_eq_ok_iff.2 ⟨_, hcs, by simp⟩⟩

/-- **The identity of a command line.** There is one exactly if every claim can
be split. -/
theorem PrincipalOptions.identity_eq_ok_iff {p : PrincipalOptions} {i : Identity} :
    p.identity = .ok i ↔ p.Describes i := by
  have hbase : p.base = { userId := p.user, authenticated := !p.anonymous } := by
    rw [base]
    cases p.anonymous <;> cases p.user <;> rfl
  have hmem : ∀ role, role ∈ (p.roles.foldl Identity.withRole p.base).roles ↔ role ∈ p.roles := by
    intro role
    rw [mem_foldl_withRole, hbase]
    simp
  rw [identity, foldlM_addClaim_eq_ok_iff, foldl_withRole]
  generalize (p.roles.foldl Identity.withRole p.base).roles = roles at *
  constructor
  · rintro ⟨cs, hcs, rfl⟩
    rw [hbase]
    exact ⟨rfl, rfl, hmem, hcs⟩
  · rintro ⟨huser, hauthenticated, hroles, hclaims⟩
    refine ⟨i.claims, hclaims, ?_⟩
    obtain ⟨user, authenticated, roles', claims⟩ := i
    have hroles' : roles' = roles := NameSet.ext fun role => (hroles role).trans (hmem role).symm
    rw [hbase, hroles', show user = p.user from huser,
      show authenticated = !p.anonymous from hauthenticated]
    simp

/-! ## The check -/

/-- What has to hold for a check to succeed: settings are loaded, and no name
is both declared and locked; the claims can be split; the principal is not
anonymous; and the policy is declared, with a rule that grants access to the
identity. -/
structure Passes (loaded : Except LoadError Settings) (policy : String)
    (principal : PrincipalOptions) : Prop where
  known : principal.anonymous = false
  granted : ∃ settings identity rule, loaded = .ok settings ∧
    (∃ set, settings.policySet = .ok set) ∧ principal.Describes identity ∧
    settings.policies.get? policy = some rule ∧ rule.Grants identity.toPrincipal

theorem admission_eq_ok_iff {answer : Except Refusal Decision} :
    Enforcer.admission answer = .ok () ↔ ∃ d, answer = .ok d ∧ d.outcome = .granted := by
  cases answer with
  | error refusal => simp [Enforcer.admission]
  | ok d =>
    have hgranted : d.isGranted = true ↔ d.outcome = .granted := Outcome.isGranted_iff
    rw [Enforcer.admission]
    cases hd : d.isGranted <;> simp [← hgranted, hd]

theorem checkAgainst_error_eq_none_iff {set : PolicySet} {audit : Bool} {policy : String}
    {i : Identity} : (checkAgainst set audit policy i).error = none ↔
      ∃ rule, set.get? policy = some (some rule) ∧ rule.Grants i.toPrincipal := by
  have herror : (checkAgainst set audit policy i).error = none ↔
      Enforcer.admission (set.compile.authorize policy i.toPrincipal) = .ok () := by
    simp only [checkAgainst, Enforcer.enforce, Enforcer.decide]
    cases Enforcer.admission (set.compile.authorize policy i.toPrincipal) <;> simp
  rw [herror, admission_eq_ok_iff, PolicySet.authorize_compile]
  constructor
  · rintro ⟨d, hd, hgranted⟩
    cases hget : set.get? policy with
    | none => simp [hget] at hd
    | some entry =>
      simp only [hget, Except.ok.injEq] at hd
      rw [← hd] at hgranted
      cases entry with
      | none => exact absurd hgranted (Policy.outcome_compile_none_ne_granted policy i.toPrincipal)
      | some rule => exact ⟨rule, rfl, (Policy.outcome_compile_eq_granted_iff policy).1 hgranted⟩
  · rintro ⟨rule, hget, hgrants⟩
    rw [hget]
    exact ⟨_, rfl, (Policy.outcome_compile_eq_granted_iff policy).2 hgrants⟩

theorem check_error_eq_none_iff {stack : Stack} {policy : String} {principal : PrincipalOptions} :
    (check stack policy principal).error = none ↔ Passes stack.load policy principal := by
  constructor
  · intro h
    rw [check] at h
    split at h
    · cases h
    · rename_i i hidentity
      split at h
      · cases h
      · rename_i settings hload
        split at h
        · cases h
        · rename_i set hset
          obtain ⟨rule, hrule, hgrants⟩ := checkAgainst_error_eq_none_iff.1 h
          have hdescribes := PrincipalOptions.identity_eq_ok_iff.1 hidentity
          have hdeclared : settings.policies.get? policy = some rule := by
            rw [policySet_eq_ok hset] at hrule
            split at hrule
            · rename_i hget
              rw [hget, Option.some.inj hrule]
            · split at hrule <;> cases hrule
          have hknown : (!principal.anonymous) = true :=
            hdescribes.authenticated.symm.trans hgrants.authenticated
          exact ⟨by simpa using hknown, settings, i, rule, hload, ⟨set, hset⟩, hdescribes,
            hdeclared, hgrants⟩
  · rintro ⟨-, settings, i, rule, hload, ⟨set, hset⟩, hdescribes, hdeclared, hgrants⟩
    rw [check, PrincipalOptions.identity_eq_ok_iff.2 hdescribes]
    simp only [hload, hset]
    refine checkAgainst_error_eq_none_iff.2 ⟨rule, ?_, hgrants⟩
    rw [policySet_eq_ok hset, hdeclared]

/-! ## The exit code -/

namespace Invocation

/-- The exit code of an invocation that checks a principal against a policy. -/
def checkCode (i : Invocation) (policy : String) (principal : PrincipalOptions) (t : FileTree)
    (s : Surroundings) : Nat :=
  (({ i with action := .check policy principal } : Invocation).run t s).code

variable {i : Invocation} {policy : String} {principal : PrincipalOptions} {t : FileTree}
  {s : Surroundings}

theorem checkCode_eq_zero_iff :
    i.checkCode policy principal t s = 0 ↔ Passes (i.stack t s).load policy principal := by
  have hzero : i.checkCode policy principal t s = 0 ↔ (i.stack t s).load ≠ .error .noRoom ∧
      (check (i.stack t s) policy principal).error = none := code_eq_zero_iff
  rw [hzero, check_error_eq_none_iff, and_iff_right_iff_imp]
  rintro ⟨-, settings, identity, rule, hload, -⟩
  rw [hload]
  nofun

theorem checkCode_eq_one_iff : i.checkCode policy principal t s = 1 ↔
    (i.stack t s).load ≠ .error .noRoom ∧ ¬ Passes (i.stack t s).load policy principal := by
  have hone : i.checkCode policy principal t s = 1 ↔ (i.stack t s).load ≠ .error .noRoom ∧
      (check (i.stack t s) policy principal).error ≠ none := code_eq_one_iff
  rw [hone, ne_eq, ne_eq, check_error_eq_none_iff]

theorem checkCode_eq_stopped_iff :
    i.checkCode policy principal t s = stoppedCode ↔ (i.stack t s).load = .error .noRoom :=
  code_eq_stopped_iff

/-- Invocations that agree on what passes, and on whether loading comes back, have
the same exit code. -/
theorem checkCode_congr {i' : Invocation} {t' : FileTree} {s' : Surroundings}
    (hroom : (i.stack t s).load = .error .noRoom ↔ (i'.stack t' s').load = .error .noRoom)
    (h : Passes (i.stack t s).load policy principal ↔ Passes (i'.stack t' s').load policy principal) :
    i.checkCode policy principal t s = i'.checkCode policy principal t' s' := by
  by_cases hload : (i.stack t s).load = .error .noRoom
  · rw [checkCode_eq_stopped_iff.2 hload, checkCode_eq_stopped_iff.2 (hroom.1 hload)]
  by_cases hpasses : Passes (i.stack t s).load policy principal
  · rw [checkCode_eq_zero_iff.2 hpasses, checkCode_eq_zero_iff.2 (h.1 hpasses)]
  · rw [checkCode_eq_one_iff.2 ⟨hload, hpasses⟩,
      checkCode_eq_one_iff.2 ⟨mt hroom.2 hload, mt h.2 hpasses⟩]

end Invocation

/-- Settings that differ in nothing but how much is logged. -/
structure SameButLogging (c c' : Settings) : Prop where
  locked : c.locked = c'.locked
  policies : c.policies = c'.policies

theorem SameButLogging.symm {c c' : Settings} (h : SameButLogging c c') : SameButLogging c' c :=
  ⟨h.locked.symm, h.policies.symm⟩

theorem Passes.of_sameButLogging {policy : String} {principal : PrincipalOptions} {c c' : Settings}
    (hsame : SameButLogging c c') (h : Passes (.ok c) policy principal) :
    Passes (.ok c') policy principal := by
  obtain ⟨hknown, settings, identity, rule, hload, ⟨set, hset⟩, hdescribes, hdeclared, hgrants⟩ := h
  cases hload
  have hpolicySet : c'.policySet = c.policySet := by
    simp only [Settings.policySet, Settings.clash?, hsame.locked, hsame.policies]
  exact ⟨hknown, c', identity, rule, rfl, ⟨set, hpolicySet.trans hset⟩, hdescribes,
    hsame.policies ▸ hdeclared, hgrants⟩

/-- **When a check succeeds.** The exit code is zero exactly if all of `Passes`
holds, and otherwise it is one, unless loading the settings does not come back. So nobody anonymous passes, and nobody passes a
locked name or one that is not declared. How much is logged, by the settings
or by the environment, and whether there are colours, makes no difference. -/
theorem Invocation.run_check (policy : String) (principal : PrincipalOptions) :
    (∀ (i : Invocation) (t : FileTree) (s : Surroundings),
      (i.checkCode policy principal t s = 0 ↔ Passes (i.stack t s).load policy principal) ∧
      (i.checkCode policy principal t s = 1 ↔ (i.stack t s).load ≠ .error .noRoom ∧
        ¬ Passes (i.stack t s).load policy principal) ∧
      (i.checkCode policy principal t s = stoppedCode ↔ (i.stack t s).load = .error .noRoom)) ∧
    (principal.anonymous = true → ∀ (i : Invocation) (t : FileTree) (s : Surroundings),
      i.checkCode policy principal t s ≠ 0) ∧
    (∀ (i : Invocation) (t : FileTree) (s : Surroundings) (c : Settings),
      (i.stack t s).load = .ok c → policy ∈ c.locked ∨ c.policies.get? policy = none →
      i.checkCode policy principal t s ≠ 0) ∧
    (∀ (i i' : Invocation) (t t' : FileTree) (s s' : Surroundings) (c c' : Settings),
      (i.stack t s).load = .ok c → (i'.stack t' s').load = .ok c' → SameButLogging c c' →
      i.checkCode policy principal t s = i'.checkCode policy principal t' s') ∧
    ∀ (i i' : Invocation) (t : FileTree) (s s' : Surroundings),
      i.project = i'.project → i.config = i'.config →
      s.withoutLogFilter = s'.withoutLogFilter →
      i.checkCode policy principal t s = i'.checkCode policy principal t s' := by
  refine ⟨fun i t s => ⟨checkCode_eq_zero_iff, checkCode_eq_one_iff, checkCode_eq_stopped_iff⟩, ?_, ?_, ?_, ?_⟩
  · intro hanonymous i t s hcode
    have hknown := (checkCode_eq_zero_iff.1 hcode).known
    rw [hanonymous] at hknown
    cases hknown
  · intro i t s c hc hno hcode
    obtain ⟨-, settings, _, rule, hload, ⟨set, hset⟩, -, hdeclared, -⟩ :=
      checkCode_eq_zero_iff.1 hcode
    cases hc.symm.trans hload
    rcases hno with hlocked | hnone
    · rw [get?_eq_none_of_locked hset hlocked] at hdeclared
      cases hdeclared
    · rw [hnone] at hdeclared
      cases hdeclared
  · intro i i' t t' s s' c c' hc hc' hsame
    have hroom : (i.stack t s).load = .error .noRoom ↔ (i'.stack t' s').load = .error .noRoom := by
      rw [hc, hc']
      exact iff_of_false nofun nofun
    refine checkCode_congr hroom ?_
    rw [hc, hc']
    exact ⟨Passes.of_sameButLogging hsame, Passes.of_sameButLogging hsame.symm⟩
  · intro i i' t s s' hproject hconfig hs
    have hload : (i.stack t s).load = (i'.stack t s').load := by
      rw [stack, stack, ← Stack.load_withoutLogFilter t s, ← Stack.load_withoutLogFilter t s', hs,
        hproject, hconfig]
    exact checkCode_congr (by rw [hload]) (by rw [hload])

/-- A claim is split at its first equals sign; the value may hold more of them. -/
example : Invocation.checkCode { action := .policies } "ops"
    { roles := ["admin"], claims := ["dept=a=b"] }
    { entries := [(["warden.toml"], .file (Text.toBytes "policies.ops.allow_roles = ['admin']"))] }
    { here := [] } = 0 := by
  decide +kernel

end AccessPolicy.Command
