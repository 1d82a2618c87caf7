/-
The two kinds of rule. One allows somebody by name: then, of those who meet
the claims, only the allowed get in, and the deny lists are idle. The other
allows nobody by name: then all of them get in whom no deny list names.

`Grants` comes apart into these two (`grants_iff_of_allowsByName`,
`grants_iff_of_not_allowsByName`). Which of them applies decides in which
direction access moves when a rule is edited or an identity gains a role.
-/
import AccessPolicy.Proofs.Verdict

namespace AccessPolicy

theorem NameSet.eq_empty_iff {s : NameSet} : s = ∅ ↔ ∀ n, n ∉ s := by
  simp [NameSet.ext_iff]

namespace Rule

variable {r : Rule} {p : Principal}

/-- Some role or user is allowed by name. -/
def AllowsByName (r : Rule) : Prop := ∃ n, n ∈ r.allowRoles ∨ n ∈ r.allowUsers

/-- The name is on a deny list. -/
def Denies (r : Rule) (n : String) : Prop :=
  ∃ s, (r.denyRoles = some s ∨ r.denyUsers = some s) ∧ n ∈ s

theorem not_allowsByName_iff : ¬ r.AllowsByName ↔ r.allowRoles = ∅ ∧ r.allowUsers = ∅ := by
  simp only [AllowsByName, not_exists, not_or, forall_and, NameSet.eq_empty_iff]

theorem Admits.allowsByName (h : r.Admits p) : r.AllowsByName := by
  obtain ⟨n, hn, -⟩ := h
  exact ⟨n, hn⟩

theorem passesAllowed_iff : r.PassesAllowed p ↔ ¬ r.AllowsByName ∨ r.Admits p := by
  rw [PassesAllowed, not_allowsByName_iff]

/-- A deny list is idle for who is allowed by name. -/
theorem Admits.passesDenied (h : r.Admits p) (names : Option NameSet) : r.PassesDenied names p :=
  fun _ _ _ _ _ => h

/-- If somebody is allowed by name, exactly those are let in who are, whatever
the deny lists say. -/
theorem grants_iff_of_allowsByName (h : r.AllowsByName) :
    r.Grants p ↔ p.authenticated = true ∧ r.Admits p ∧ r.MeetsClaims p := by
  constructor
  · rintro ⟨hauthenticated, hallowed, -, -, hclaims⟩
    have hadmits : r.Admits p := (passesAllowed_iff.1 hallowed).resolve_left (fun hno => hno h)
    exact ⟨hauthenticated, hadmits, hclaims⟩
  · rintro ⟨hauthenticated, hadmits, hclaims⟩
    exact ⟨hauthenticated, .inr hadmits, hadmits.passesDenied _, hadmits.passesDenied _, hclaims⟩

/-- If nobody is allowed by name, exactly those are let in for whom no denied
name stands. -/
theorem grants_iff_of_not_allowsByName (h : ¬ r.AllowsByName) :
    r.Grants p ↔
      p.authenticated = true ∧ (∀ n, r.Denies n → p.isMemberOf n = false) ∧ r.MeetsClaims p := by
  have hadmits : ¬ r.Admits p := fun hadmits => h hadmits.allowsByName
  constructor
  · rintro ⟨hauthenticated, -, hroles, husers, hclaims⟩
    refine ⟨hauthenticated, ?_, hclaims⟩
    rintro n ⟨s, hs | hs, hn⟩
    · exact Bool.eq_false_iff.2 fun hmember => hadmits (hroles s hs n hn hmember)
    · exact Bool.eq_false_iff.2 fun hmember => hadmits (husers s hs n hn hmember)
  · rintro ⟨hauthenticated, hdenied, hclaims⟩
    refine ⟨hauthenticated, .inl (not_allowsByName_iff.1 h), fun s hs n hn hmember => ?_,
      fun s hs n hn hmember => ?_, hclaims⟩
    · rw [hdenied n ⟨s, .inl hs, hn⟩] at hmember
      cases hmember
    · rw [hdenied n ⟨s, .inr hs, hn⟩] at hmember
      cases hmember

end Rule

end AccessPolicy
