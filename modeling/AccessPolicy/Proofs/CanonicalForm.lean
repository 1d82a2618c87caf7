/-
Which entries compile to one and the same policy.

A compiled rule keeps who is allowed as one increasing list, both deny lists,
and the claims in the order in which they are asked for. It forgets which of
the allowed names are roles, and which claim stood apart from the list. Nothing
else is lost: a set of names can be read off its list (`NameSet.toList_inj`),
so entries that compile alike agree in all that is kept (`sameForm_iff`).
-/
import AccessPolicy.Proofs.Verdict

namespace AccessPolicy

namespace NameSet

/-- The members but one. -/
def erase (s : NameSet) (n : String) : NameSet := ⟨s.toList.filter (· ≠ n), s.increasing.filter _⟩

theorem mem_erase {s : NameSet} {n x : String} : x ∈ s.erase n ↔ x ∈ s ∧ x ≠ n := by
  simp [mem_def, erase]

end NameSet

/-! ## What compiling keeps -/

namespace Rule

variable {r r' : Rule}

/-- The rules allow the same names, whether as roles or as users, have the same
deny lists, and ask for the same claims in the same order. -/
structure SameForm (r r' : Rule) : Prop where
  allowed : ∀ n, (n ∈ r.allowRoles ∨ n ∈ r.allowUsers) ↔ (n ∈ r'.allowRoles ∨ n ∈ r'.allowUsers)
  denyRoles : r.denyRoles = r'.denyRoles
  denyUsers : r.denyUsers = r'.denyUsers
  claims : r.allowClaim.toList ++ r.allowClaims.getD [] =
    r'.allowClaim.toList ++ r'.allowClaims.getD []

theorem allowed_eq_iff : r.allowed = r'.allowed ↔
    ∀ n, (n ∈ r.allowRoles ∨ n ∈ r.allowUsers) ↔ (n ∈ r'.allowRoles ∨ n ∈ r'.allowUsers) := by
  simp only [NameSet.ext_iff, allowed, NameSet.mem_union]

/-- Absent deny lists stay apart from empty ones. -/
theorem map_toList_inj {names names' : Option NameSet} :
    names.map NameSet.toList = names'.map NameSet.toList ↔ names = names' :=
  Option.map_inj_right fun _ _ => NameSet.toList_inj.1

theorem sameForm_iff : CompiledRule.ofRule r = CompiledRule.ofRule r' ↔ r.SameForm r' := by
  simp only [CompiledRule.ofRule, CompiledRule.mk.injEq, NameSet.toList_inj, map_toList_inj,
    allowed_eq_iff]
  constructor
  · rintro ⟨hallowed, hroles, husers, hclaims⟩
    exact ⟨hallowed, hroles, husers, hclaims⟩
  · rintro ⟨hallowed, hroles, husers, hclaims⟩
    exact ⟨hallowed, hroles, husers, hclaims⟩

/-! ## What compiling forgets -/

/-- The rule with a name allowed as a user, and no longer as a role. -/
def asUser (r : Rule) (n : String) : Rule :=
  { r with allowRoles := r.allowRoles.erase n, allowUsers := r.allowUsers.insert n }

/-- The rule with a name allowed as a role, and no longer as a user. -/
def asRole (r : Rule) (n : String) : Rule :=
  { r with allowRoles := r.allowRoles.insert n, allowUsers := r.allowUsers.erase n }

/-- The rule with its single claim at the head of the list. -/
def claimListed (r : Rule) : Rule :=
  { r with allowClaim := none, allowClaims := some (r.allowClaim.toList ++ r.allowClaims.getD []) }

/-- To put one more name in one set and take it out of the other keeps the
union, if the name was in it. -/
theorem mem_insert_or_mem_erase_iff {s t : NameSet} {n : String} (h : n ∈ s ∨ n ∈ t) (x : String) :
    (x ∈ s.insert n ∨ x ∈ t.erase n) ↔ (x ∈ s ∨ x ∈ t) := by
  rw [NameSet.mem_insert, NameSet.mem_erase]
  by_cases hx : x = n
  · subst hx
    exact ⟨fun _ => h, fun _ => .inl (.inl rfl)⟩
  · rw [or_iff_right hx, and_iff_left hx]

theorem sameForm_asRole {n : String} (h : n ∈ r.allowed) : (r.asRole n).SameForm r where
  allowed := mem_insert_or_mem_erase_iff (NameSet.mem_union.1 h)
  denyRoles := rfl
  denyUsers := rfl
  claims := rfl

theorem sameForm_asUser {n : String} (h : n ∈ r.allowed) : (r.asUser n).SameForm r where
  allowed x := by
    rw [or_comm, or_comm (b := x ∈ r.allowUsers)]
    exact mem_insert_or_mem_erase_iff (NameSet.mem_union.1 h).symm x
  denyRoles := rfl
  denyUsers := rfl
  claims := rfl

theorem sameForm_claimListed : r.claimListed.SameForm r where
  allowed _ := Iff.rfl
  denyRoles := rfl
  denyUsers := rfl
  claims := rfl

end Rule

/-- Both entries are locks, or rules of one form. -/
inductive SameEntry : Option Rule → Option Rule → Prop where
  | locked : SameEntry none none
  | rule {r r' : Rule} : r.SameForm r' → SameEntry (some r) (some r')

theorem SameEntry.some_iff {r r' : Rule} : SameEntry (some r) (some r') ↔ r.SameForm r' := by
  constructor
  · intro h
    cases h with
    | rule h => exact h
  · exact .rule

namespace Policy

theorem compile_eq_iff {name name' : String} {entry entry' : Option Rule} :
    compile name entry = compile name' entry' ↔ name = name' ∧ SameEntry entry entry' := by
  cases entry with
  | none =>
    cases entry' with
    | none => simp [compile, SameEntry.locked]
    | some r' =>
      constructor
      · intro h
        cases (mk.inj h).2
      · rintro ⟨-, h⟩
        cases h
  | some r =>
    cases entry' with
    | none =>
      constructor
      · intro h
        cases (mk.inj h).2
      · rintro ⟨-, h⟩
        cases h
    | some r' =>
      rw [compile, compile, mk.injEq, PolicyBody.rule.injEq, Rule.sameForm_iff, SameEntry.some_iff]

/-- **Compiled policies are canonical.** Two of them are equal exactly if they
bear the same name and come from two locks or from two rules of one form. So it
makes no difference whether an allowed name is a role or a user, or whether a
claim stands apart or first in the list; rules of one form decide alike about
everyone. The allowed names of a compiled rule are its roles and users, in
increasing order and once each. -/
theorem compile_canonical :
    (∀ (name name' : String) (entry entry' : Option Rule),
      compile name entry = compile name' entry' ↔ name = name' ∧ SameEntry entry entry') ∧
    (∀ (name : String) (r : Rule) (n : String), n ∈ r.allowed →
      compile name (some (r.asUser n)) = compile name (some r) ∧
      compile name (some (r.asRole n)) = compile name (some r)) ∧
    (∀ (name : String) (r : Rule), compile name (some r.claimListed) = compile name (some r)) ∧
    (∀ (name : String) (entry entry' : Option Rule), SameEntry entry entry' →
      ∀ p, (compile name entry).evaluate p = (compile name entry').evaluate p) ∧
    (∀ (name : String) (r : Rule), ∃ c, (compile name (some r)).body = .rule c ∧
      c.identities.Pairwise (· < ·) ∧ c.identities.Nodup ∧
      ∀ n, n ∈ c.identities ↔ n ∈ r.allowRoles ∨ n ∈ r.allowUsers) := by
  refine ⟨fun _ _ _ _ => compile_eq_iff, fun name r n hn => ⟨?_, ?_⟩, fun name r => ?_,
    fun name _ _ h p => ?_, fun name r => ⟨.ofRule r, rfl, ?_, ?_, fun n => ?_⟩⟩
  · exact compile_eq_iff.2 ⟨rfl, .rule (Rule.sameForm_asUser hn)⟩
  · exact compile_eq_iff.2 ⟨rfl, .rule (Rule.sameForm_asRole hn)⟩
  · exact compile_eq_iff.2 ⟨rfl, .rule Rule.sameForm_claimListed⟩
  · rw [compile_eq_iff.2 ⟨rfl, h⟩]
  · exact r.allowed.increasing
  · exact r.allowed.nodup_toList
  · exact NameSet.mem_union

/-- One name is allowed as a role and as a user, and one claim stands apart. -/
def editors : Rule where
  allowRoles := .ofList ["admin", "editor"]
  allowUsers := .ofList ["admin", "carol"]
  allowClaim := some (.anyValue "mfa")
  allowClaims := some [.anyValue "badge"]

/-- The editors may be users, and both claims may be listed. A deny list
without names makes another policy of them. -/
theorem compile_editors :
    "editor" ∈ editors.allowed ∧
    compile "wiki" (some (editors.asUser "editor")) = compile "wiki" (some editors) ∧
    SameEntry (some editors.claimListed) (some editors) ∧
    (∀ p, (compile "wiki" (some editors.claimListed)).evaluate p =
      (compile "wiki" (some editors)).evaluate p) ∧
    compile "wiki" (some { editors with denyRoles := some ∅ }) ≠ compile "wiki" (some editors) := by
  obtain ⟨-, hmoved, -, hdecide, -⟩ := compile_canonical
  have hin : "editor" ∈ editors.allowed := by decide
  have hlisted : SameEntry (some editors.claimListed) (some editors) :=
    .rule Rule.sameForm_claimListed
  exact ⟨hin, (hmoved "wiki" editors "editor" hin).1, hlisted, hdecide "wiki" _ _ hlisted, by decide⟩

end Policy

end AccessPolicy
