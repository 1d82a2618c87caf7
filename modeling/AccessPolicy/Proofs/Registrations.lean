/-
Registries and their histories: which entry a name has after a set was
collected from a list and then changed step by step, and what the compiled
policies decide by it.

Every registration is an insertion (`apply_fst`), so a history amounts to
collecting the list of all its entries (`History.entries_set`), in which the
last one under a name counts. Compiling goes name by name
(`get?_compile`), so it does not matter whether the set is compiled or each
registration by itself.
-/
import AccessPolicy.PolicySet
import AccessPolicy.Proofs.LastEntry
import AccessPolicy.Proofs.Verdict
import Mathlib.Data.Finset.Card

namespace AccessPolicy

/-- A registration in a set that is there already. -/
inductive Registration where
  | insert (name : String) (entry : Option Rule)
  | withPolicy (name : String) (rule : Rule)
  | withLocked (name : String)

/-- What a registration answers: an insertion tells which entry it replaces, if
there was one. -/
inductive Registration.Answer where
  | done
  | replaced (before : Option (Option Rule))

namespace Registration

/-- What is registered under which name. -/
def entry : Registration → String × Option Rule
  | insert name entry => (name, entry)
  | withPolicy name rule => (name, some rule)
  | withLocked name => (name, none)

/-- The set after a registration, and the answer. -/
def apply (s : PolicySet) : Registration → PolicySet × Answer
  | insert name entry => let (before, s) := s.replace name entry; (s, .replaced before)
  | withPolicy name rule => (s.withPolicy name rule, .done)
  | withLocked name => (s.withLocked name, .done)

/-- The set after a sequence of registrations, and their answers. -/
def applyAll (s : PolicySet) : List Registration → PolicySet × List Answer
  | [] => (s, [])
  | r :: rs =>
    let (s, answer) := r.apply s
    let (s, answers) := applyAll s rs
    (s, answer :: answers)

theorem apply_fst (s : PolicySet) (r : Registration) :
    (r.apply s).1 = s.insert r.entry.1 r.entry.2 := by
  cases r <;> rfl

theorem entries_applyAll (s : PolicySet) (rs : List Registration) :
    (applyAll s rs).1.entries =
      (rs.map entry).foldl (fun m e => m.insert e.1 e.2) s.entries := by
  induction rs generalizing s with
  | nil => rfl
  | cons r rs ih =>
    simp only [applyAll, List.map_cons, List.foldl_cons]
    rw [ih, apply_fst]
    rfl

theorem applyAll_append (s : PolicySet) (rs rs' : List Registration) :
    applyAll s (rs ++ rs') =
      ((applyAll (applyAll s rs).1 rs').1, (applyAll s rs).2 ++ (applyAll (applyAll s rs).1 rs').2) := by
  induction rs generalizing s with
  | nil => rfl
  | cons r rs ih => simp only [List.cons_append, applyAll, ih]

theorem length_answers (s : PolicySet) (rs : List Registration) :
    (applyAll s rs).2.length = rs.length := by
  induction rs generalizing s with
  | nil => rfl
  | cons r rs ih => simp [applyAll, ih]

end Registration

/-- The history of a registry: the entries that it was collected from, and the
registrations after that. -/
structure History where
  collected : List (String × Option Rule)
  steps : List Registration

namespace History

/-- The set at the end. -/
def set (h : History) : PolicySet := (Registration.applyAll (.ofList h.collected) h.steps).1

/-- The answers of the steps. -/
def answers (h : History) : List Registration.Answer :=
  (Registration.applyAll (.ofList h.collected) h.steps).2

/-- Everything that was ever registered, in order. -/
def entries (h : History) : List (String × Option Rule) :=
  h.collected ++ h.steps.map Registration.entry

/-- The history up to some step. -/
def before (h : History) (i : Nat) : History := { h with steps := h.steps.take i }

theorem entries_set (h : History) : h.set.entries = .ofList h.entries := by
  rw [set, Registration.entries_applyAll, entries, NameMap.ofList_append]
  rfl

/-- The entry of a name is the last one that was registered. -/
theorem get?_set (h : History) (name : String) :
    h.set.get? name = NameMap.last? name h.entries := by
  rw [PolicySet.get?, entries_set, NameMap.get?_ofList]

/-- An insertion answers with the entry that was in force. -/
theorem answers_insert {h : History} {i : Nat} {name : String} {entry : Option Rule}
    (hi : h.steps[i]? = some (.insert name entry)) :
    h.answers[i]? = some (.replaced (NameMap.last? name (h.before i).entries)) := by
  obtain ⟨hlt, hget⟩ := List.getElem?_eq_some_iff.1 hi
  have hsplit : h.steps = h.steps.take i ++ .insert name entry :: h.steps.drop (i + 1) := by
    rw [← hget, ← List.drop_eq_getElem_cons hlt, List.take_append_drop]
  have hlen : (Registration.applyAll (.ofList h.collected) (h.steps.take i)).2.length = i := by
    rw [Registration.length_answers, List.length_take, Nat.min_eq_left (Nat.le_of_lt hlt)]
  rw [← get?_set, answers, hsplit, Registration.applyAll_append,
    List.getElem?_append_right (Nat.le_of_eq hlen), hlen, Nat.sub_self]
  simp only [Registration.applyAll, Registration.apply, PolicySet.replace, List.getElem?_cons_zero,
    before, set, PolicySet.get?]

end History

/-! ## Compiled policies by name -/

theorem Policy.name_compile (name : String) (entry : Option Rule) :
    (Policy.compile name entry).name = name := by
  cases entry <;> rfl

namespace CompiledPolicies

theorem get?_ofList (l : List Policy) (name : String) :
    (ofList l).get? name = NameMap.last? name (l.map fun p => (p.name, p)) := by
  rw [get?, ofList, NameMap.get?_ofList]

/-- Policies that are compiled one by one and then collected. -/
theorem get?_ofList_compile (l : List (String × Option Rule)) (name : String) :
    (ofList (l.map fun e => Policy.compile e.1 e.2)).get? name =
      (NameMap.last? name l).map (Policy.compile name) := by
  rw [get?_ofList, List.map_map, ← NameMap.last?_map]
  simp only [Function.comp_def, Policy.name_compile]

theorem ext_get? {c c' : CompiledPolicies} (h : ∀ name, c.get? name = c'.get? name) : c = c' := by
  obtain ⟨m⟩ := c
  obtain ⟨m'⟩ := c'
  exact congrArg mk (NameMap.ext h)

end CompiledPolicies

namespace PolicySet

theorem get?_compile (s : PolicySet) (name : String) :
    s.compile.get? name = (s.get? name).map (Policy.compile name) := by
  rw [compile, compileEach, CompiledPolicies.get?_ofList_compile, toList, NameMap.last?_toList, get?]

theorem mem_names_compile (s : PolicySet) (name : String) :
    name ∈ s.compile.names ↔ ∃ entry, s.get? name = some entry := by
  rw [CompiledPolicies.names, NameMap.mem_keys, NameMap.contains_iff]
  show (∃ v, s.compile.get? name = some v) ↔ _
  simp only [get?_compile, Option.map_eq_some_iff]
  constructor
  · rintro ⟨_, entry, h, -⟩; exact ⟨entry, h⟩
  · rintro ⟨entry, h⟩; exact ⟨_, entry, h, rfl⟩

/-- The answer of the compiled policies about a name. -/
theorem authorize_compile (s : PolicySet) (name : String) (p : Principal) :
    s.compile.authorize name p = match s.get? name with
      | some entry => .ok ((Policy.compile name entry).evaluate p)
      | none => .error (.unknownPolicy name) := by
  rw [CompiledPolicies.authorize, get?_compile]
  cases s.get? name <;> rfl

theorem mem_names_iff (s : PolicySet) (name : String) :
    name ∈ s.entries.keys ↔ ∃ entry, s.get? name = some entry := by
  rw [NameMap.mem_keys, NameMap.contains_iff]
  rfl

end PolicySet

/-- Without repetitions a list is as long as there are different names in
another list of its members. -/
theorem length_eq_card {l m : List String} (hl : l.Nodup) (h : ∀ n, n ∈ l ↔ n ∈ m) :
    l.length = m.toFinset.card := by
  have hset : l.toFinset = m.toFinset := by
    ext n
    rw [List.mem_toFinset, List.mem_toFinset, h n]
  rw [← hset, List.toFinset_card_of_nodup hl]

/-- A map has as many entries as its keys have different names. -/
theorem NameMap.size_eq_card {α : Type} {m : NameMap α} {l : List String}
    (h : ∀ k, k ∈ m.keys ↔ k ∈ l) : m.size = l.toFinset.card := by
  rw [← length_eq_card m.nodup_keys h, keys, List.length_map, size]

/-- Compiling keeps the number of policies. -/
theorem PolicySet.size_compile (s : PolicySet) : s.compile.size = s.size := by
  have hkeys : ∀ name, name ∈ s.compile.policies.keys ↔ name ∈ s.entries.keys := fun name =>
    (mem_names_compile s name).trans (mem_names_iff s name).symm
  rw [CompiledPolicies.size, NameMap.size_eq_card hkeys, size, NameMap.size_eq_card fun _ => Iff.rfl]

/-! ## Histories and decisions -/

namespace History

theorem get?_set_isSome_iff (h : History) (name : String) :
    (∃ entry, h.set.get? name = some entry) ↔ ∃ e ∈ h.entries, e.1 = name := by
  rw [get?_set, ← Option.isSome_iff_exists, ← Option.ne_none_iff_isSome, Ne,
    NameMap.last?_eq_none_iff]
  simp

/-- Compiling each registration by itself and collecting the policies in order
gives the compiled set. -/
theorem ofList_compile (h : History) :
    .ofList (h.entries.map fun e => Policy.compile e.1 e.2) = h.set.compile := by
  refine CompiledPolicies.ext_get? fun name => ?_
  rw [CompiledPolicies.get?_ofList_compile, PolicySet.get?_compile, get?_set]

theorem size_compile (h : History) :
    h.set.compile.size = (h.entries.map (·.1)).toFinset.card := by
  refine NameMap.size_eq_card fun name => ?_
  rw [← CompiledPolicies.names, PolicySet.mem_names_compile, get?_set_isSome_iff, List.mem_map]

theorem size_set (h : History) : h.set.size = (h.entries.map (·.1)).toFinset.card := by
  refine NameMap.size_eq_card fun name => ?_
  rw [PolicySet.mem_names_iff, get?_set_isSome_iff, List.mem_map]

/-- **The last registration of a name decides.** Whatever a registry went
through: only names that were never registered are unknown to the compiled
policies, and the decision about any other bears its name and the verdict on
the last entry that was registered under it. Insertions answer with the entry
that they replace, the names are listed in order and once each, every policy
stands under its own name, and it is all the same whether the set is compiled
or each registration by itself. -/
theorem compile_set (h : History) :
    (∀ name p, h.set.compile.authorize name p = .error (.unknownPolicy name) ↔
      ∀ e ∈ h.entries, e.1 ≠ name) ∧
    (∀ name entry, NameMap.last? name h.entries = some entry → ∀ p, ∃ o,
      h.set.compile.authorize name p = .ok ⟨name, o⟩ ∧ Verdict p entry o) ∧
    (∀ (i : Nat) name entry, h.steps[i]? = some (.insert name entry) →
      h.answers[i]? = some (.replaced (NameMap.last? name (h.before i).entries))) ∧
    h.set.compile.names.Pairwise (· < ·) ∧
    (∀ name, name ∈ h.set.compile.names ↔ ∃ e ∈ h.entries, e.1 = name) ∧
    h.set.compile.size = (h.entries.map (·.1)).toFinset.card ∧
    h.set.size = (h.entries.map (·.1)).toFinset.card ∧
    (∀ name policy, h.set.compile.get? name = some policy → policy.name = name) ∧
    .ofList (h.entries.map fun e => Policy.compile e.1 e.2) = h.set.compile := by
  refine ⟨fun name p => ?_, fun name entry hlast p => ?_, fun i name entry hi => answers_insert hi,
    NameMap.keys_increasing _, fun name => ?_, h.size_compile, h.size_set, fun name policy hp => ?_,
    h.ofList_compile⟩
  · rw [PolicySet.authorize_compile, get?_set, ← NameMap.last?_eq_none_iff]
    cases NameMap.last? name h.entries <;> simp
  · obtain ⟨o, ho⟩ := exists_verdict entry p
    refine ⟨o, ?_, ho⟩
    rw [PolicySet.authorize_compile, get?_set, hlast, ← Policy.outcome_of_verdict name ho]
    simp [Policy.evaluate, Policy.name_compile]
  · rw [PolicySet.mem_names_compile, get?_set_isSome_iff]
  · rw [PolicySet.get?_compile, Option.map_eq_some_iff] at hp
    obtain ⟨entry, -, rfl⟩ := hp
    exact Policy.name_compile name entry

end History

end AccessPolicy
