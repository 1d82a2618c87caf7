/-
What it means that settings are validated: how the exit code of the validation
follows from that of listing the policies, for all files, surroundings, projects
and files named on purpose (`Invocation.run_validate`).

Listing the policies needs the layers together only. The validation asks more:
each file of the project has to be complete by itself. Settings whose parts are
spread over files are in use, then, although they do not validate
(`Invocation.run_validate_spread`).
-/
import AccessPolicy.Proofs.Registrations
import AccessPolicy.Proofs.Runs

namespace AccessPolicy

namespace Command

variable {t : FileTree} {here : Place}

/-! ## What is asked of the files -/

/-- The settings can be loaded, and declare the policies of a set: no name is
both locked and declared. -/
def Declares (loaded : Except LoadError Settings) (set : PolicySet) : Prop :=
  ∃ c, loaded = .ok c ∧ c.policySet = .ok set

/-- Those of the files that are there can be read each by itself. -/
def ReadAlone (t : FileTree) (here : Place) (paths : List String) : Prop :=
  ∀ path ∈ paths, t.contains here path = true → ∃ c, Settings.ofFile t here path = .ok c

theorem readEach_eq_none_iff : ∀ {paths : List String},
    (readEach t here paths).2 = none ↔ ReadAlone t here paths
  | [] => by simp [readEach, ReadAlone]
  | path :: paths => by
    have ih : (readEach t here paths).2 = none ↔
      ∀ path ∈ paths, t.contains here path = true → ∃ c, Settings.ofFile t here path = .ok c :=
        readEach_eq_none_iff
    rw [ReadAlone, List.forall_mem_cons, readEach]
    split
    · rename_i hthere
      cases hfile : Settings.ofFile t here path with
      | error e => simp [hthere]
      | ok c => simpa [hthere] using ih
    · rename_i hthere
      simpa [hthere] using ih

theorem policies_error_eq_none_iff {stack : Stack} :
    (policies stack).error = none ↔ ∃ set, Declares stack.load set := by
  rw [policies]
  cases hload : stack.load with
  | error e => simp [Declares]
  | ok c => cases hset : c.policySet <;> simp [Declares, hset]

theorem policies_of_declares {stack : Stack} {set : PolicySet} (h : Declares stack.load set) :
    (policies stack).out = policyTable set := by
  obtain ⟨c, hload, hset⟩ := h
  rw [policies, hload]
  simp only [hset]

theorem validate_error_eq_none_iff {s : Surroundings} {project : String} {config : Option String} :
    (validate t s project config).error = none ↔
      ReadAlone t s.here (candidates project config) ∧
        ∃ set, Declares (Stack.ofFiles t s project config).load set := by
  rw [← readEach_eq_none_iff]
  unfold validate
  generalize readEach t s.here (candidates project config) = result
  generalize (Stack.ofFiles t s project config).load = loaded
  obtain ⟨read, error⟩ := result
  cases error with
  | some e => simp
  | none =>
    cases loaded with
    | error e => simp [Declares]
    | ok c => cases hset : c.policySet <;> simp [Declares, hset]

/-- What the validation says last, if nothing is wrong. -/
def validLine (set : PolicySet) : Terminal.Line :=
  Terminal.success ("Configuration is valid (" ++ toString set.size ++ " policies)")

theorem validate_of_declares {s : Surroundings} {project : String} {config : Option String}
    {set : PolicySet} (hread : ReadAlone t s.here (candidates project config))
    (h : Declares (Stack.ofFiles t s project config).load set) :
    ∃ before, (validate t s project config).out = before ++ [validLine set] := by
  obtain ⟨c, hload, hset⟩ := h
  rw [← readEach_eq_none_iff] at hread
  unfold validate
  rw [hload]
  generalize readEach t s.here (candidates project config) = result at *
  obtain ⟨read, error⟩ := result
  cases hread
  simp only [hset, PolicySet.size_compile]
  exact ⟨_, rfl⟩

/-! ## The two commands -/

namespace Invocation

/-- The invocation with another action in the same project. -/
def runAs (i : Invocation) (action : Action) (t : FileTree) (s : Surroundings) : Result :=
  ({ i with action := action } : Invocation).run t s

/-- The lines as an invocation prints them. -/
def printed (i : Invocation) (lines : List Terminal.Line) : String :=
  String.join (lines.map fun l => Terminal.render i.colours l ++ "\n")

/-- **What validates.** Listing the policies succeeds exactly if the settings
can be loaded and no name is both locked and declared. The validation succeeds
exactly if that does, and if moreover each of the files of the project that is
there, and the file that is named on purpose, can be read by itself. Then the
number that it tells is the number of the policies that are listed. -/
theorem run_validate (i : Invocation) (t : FileTree) (s : Surroundings) :
    ((i.runAs .policies t s).code = 0 ↔ ∃ set, Declares (i.stack t s).load set) ∧
    ((i.runAs .validate t s).code = 0 ↔
      (i.runAs .policies t s).code = 0 ∧ ReadAlone t s.here (candidates i.project i.config)) ∧
    ((i.runAs .validate t s).code = 0 → ∃ set before,
      Declares (i.stack t s).load set ∧
      (i.runAs .policies t s).out = i.printed (policyTable set) ∧
      (i.runAs .validate t s).out = i.printed (before ++ [validLine set])) := by
  have hroom : ∀ {set}, Declares (i.stack t s).load set → (i.stack t s).load ≠ .error .noRoom := by
    rintro set ⟨c, hload, -⟩
    rw [hload]
    nofun
  have hpolicies : (i.runAs .policies t s).code = 0 ↔ ∃ set, Declares (i.stack t s).load set := by
    have hzero : (i.runAs .policies t s).code = 0 ↔ (i.stack t s).load ≠ .error .noRoom ∧
        (policies (i.stack t s)).error = none := code_eq_zero_iff
    rw [hzero, policies_error_eq_none_iff, and_iff_right_iff_imp]
    exact fun ⟨_, hset⟩ => hroom hset
  have hvalidate : (i.runAs .validate t s).code = 0 ↔
      ReadAlone t s.here (candidates i.project i.config) ∧
        ∃ set, Declares (i.stack t s).load set := by
    have hzero : (i.runAs .validate t s).code = 0 ↔ (i.stack t s).load ≠ .error .noRoom ∧
        (validate t s i.project i.config).error = none := code_eq_zero_iff
    rw [hzero, validate_error_eq_none_iff, ← stack, and_iff_right_iff_imp]
    exact fun ⟨_, _, hset⟩ => hroom hset
  refine ⟨hpolicies, ?_, fun hcode => ?_⟩
  · rw [hvalidate, hpolicies]
    exact and_comm
  · obtain ⟨hread, set, hset⟩ := hvalidate.1 hcode
    obtain ⟨before, hbefore⟩ := validate_of_declares hread hset
    refine ⟨set, before, hset, ?_, ?_⟩
    · rw [← policies_of_declares hset]
      exact congrArg Result.out (run_of_room (i := { i with action := .policies }) (hroom hset))
    · rw [← hbefore]
      exact congrArg Result.out (run_of_room (i := { i with action := .validate }) (hroom hset))

/-- A project in which one file gives a claim other values. -/
def spread : FileTree where
  entries := [
    (["warden.toml"], .file (Text.toBytes
      "policies.ops.allow_claim = \x7btype = 'dept', values = ['eng']\x7d")),
    (["warden.local.toml"], .file (Text.toBytes "policies.ops.allow_claim.values = ['ops']"))]

/-- A file that overrides a part of a claim only does not validate, but is in use. -/
theorem run_validate_spread :
    (runAs { action := .policies } .policies spread { here := [] }).code = 0 ∧
    (runAs { action := .policies } .validate spread { here := [] }).code ≠ 0 := by
  constructor <;> decide +kernel

end Invocation

end Command

end AccessPolicy
