/-
What compiling a registry writes down: one record for each name, in order, and
one for the whole at the end.

The counts in the records are those of the rules as they are written: each
allowed name counts once, on whichever lists it stands, and an absent deny list
counts as empty. Compiling puts every policy into the place of its entry
(`policies_compile`), so the closing record counts the entries.
-/
import AccessPolicy.Proofs.Registrations

namespace AccessPolicy

/-- A name that is allowed twice counts once. -/
theorem Rule.length_allowed (r : Rule) :
    r.allowed.toList.length = (r.allowRoles.toList ++ r.allowUsers.toList).toFinset.card := by
  refine length_eq_card r.allowed.nodup_toList fun n => ?_
  rw [← NameSet.mem_def, allowed, NameSet.mem_union, List.mem_append, NameSet.mem_def,
    NameSet.mem_def]

namespace PolicySet

/-- What is written down about an entry. -/
def entryRecord (name : String) : Option Rule → LogRecord
  | none =>
    ⟨.debug, Event.compilerTarget, "Compiled locked policy", [("policy", .text name)]⟩
  | some r =>
    ⟨.debug, Event.compilerTarget, "Compiled policy",
      [("policy", .text name),
       ("identities", .number (r.allowRoles.toList ++ r.allowUsers.toList).toFinset.card),
       ("deny_roles", .number ((r.denyRoles.map NameSet.size).getD 0)),
       ("deny_users", .number ((r.denyUsers.map NameSet.size).getD 0)),
       ("claims", .number (r.allowClaim.toList.length + (r.allowClaims.getD []).length))]⟩

/-! ## One entry -/

theorem length_getD_map_toList (names : Option NameSet) :
    ((names.map NameSet.toList).getD []).length = (names.map NameSet.size).getD 0 := by
  cases names <;> rfl

theorem record_compile (name : String) (entry : Option Rule) :
    (Event.ofPolicy (Policy.compile name entry)).record = entryRecord name entry := by
  cases entry with
  | none => rfl
  | some r =>
    show (Event.compiledRule name r.allowed.toList.length
      ((r.denyRoles.map NameSet.toList).getD []).length
      ((r.denyUsers.map NameSet.toList).getD []).length
      (r.allowClaim.toList ++ r.allowClaims.getD []).length).record = _
    rw [r.length_allowed, length_getD_map_toList, length_getD_map_toList, List.length_append]
    rfl

theorem message_entryRecord_iff {name : String} {entry : Option Rule} :
    (entryRecord name entry).message = "Compiled locked policy" ↔ entry = none := by
  cases entry with
  | none => exact ⟨fun _ => rfl, fun _ => rfl⟩
  | some r => exact ⟨fun h => absurd h (by simp [entryRecord]), nofun⟩

theorem isLocked_compile_iff {name : String} {entry : Option Rule} :
    (Policy.compile name entry).isLocked = true ↔ entry = none := by
  cases entry <;> simp [Policy.compile, Policy.isLocked]

/-! ## The whole set -/

theorem policies_compile (s : PolicySet) : s.compile.policies = s.entries.map Policy.compile := by
  refine NameMap.ext fun name => ?_
  rw [NameMap.get?_map]
  exact s.get?_compile name

/-- Compiling keeps the order of the entries. -/
theorem toList_compile (s : PolicySet) : s.compile.toList = s.compileEach := by
  rw [CompiledPolicies.toList, policies_compile]
  exact List.map_map

/-- The records about the entries. -/
def entryRecords (s : PolicySet) : List LogRecord := s.toList.map fun e => entryRecord e.1 e.2

theorem records_compileEach (s : PolicySet) :
    (s.compileEach.map Event.ofPolicy).map Event.record = s.entryRecords := by
  rw [compileEach, List.map_map, List.map_map]
  exact List.map_congr_left fun e _ => record_compile e.1 e.2

theorem countP_isLocked (s : PolicySet) :
    s.compileEach.countP Policy.isLocked =
      s.entryRecords.countP fun r => r.message = "Compiled locked policy" := by
  rw [compileEach, entryRecords, List.countP_map, List.countP_map]
  refine List.countP_congr fun e _ => ?_
  simp only [Function.comp_apply, isLocked_compile_iff, decide_eq_true_eq, message_entryRecord_iff]

/-- **The compilation log describes the registry.** It has one record for each
registered name, in increasing order, and a closing one. The record of a name
says that it is locked exactly if it is registered without a rule, and otherwise
how many different names its rule allows, how many it denies as roles and as
users, and how many claims it requires. The closing record counts the others,
and the locks among them. -/
theorem records_compileEvents (s : PolicySet) :
    ∃ records : List LogRecord,
      s.compileEvents.map Event.record = records ++
        [⟨.debug, Event.compilerTarget, "Compiled policy set",
          [("policies", .number records.length),
           ("locked", .number (records.countP fun r => r.message = "Compiled locked policy"))]⟩] ∧
      s.entries.keys.Pairwise (· < ·) ∧
      (∀ name, name ∈ s.entries.keys ↔ ∃ entry, s.get? name = some entry) ∧
      List.Forall₂ (fun name record => ∃ entry, s.get? name = some entry ∧
        record = entryRecord name entry ∧
        (record.message = "Compiled locked policy" ↔ entry = none)) s.entries.keys records := by
  refine ⟨s.entryRecords, ?_, s.entries.keys_increasing, s.mem_names_iff, ?_⟩
  · have hsize : s.compile.size = s.entryRecords.length := by
      rw [size_compile, entryRecords, List.length_map]
      rfl
    rw [compileEvents, List.map_append, records_compileEach, toList_compile, countP_isLocked, hsize]
    rfl
  · rw [NameMap.keys, entryRecords, toList, List.forall₂_map_left_iff, List.forall₂_map_right_iff,
      List.forall₂_same]
    exact fun e he => ⟨e.2, NameMap.get?_eq_some.2 he, rfl, message_entryRecord_iff⟩

end PolicySet

end AccessPolicy
