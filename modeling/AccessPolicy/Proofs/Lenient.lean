/-
What is read by the types of the fields is read leniently to the same.

The lenient notation takes more values for texts and truth values, but a value
of the right kind for what it is. So what one notation reads, the other reads
from the alike tree (`Carries`): a list of names, a claim, a rule. The one
exception are the records without a required field: to the first notation a
date is a table, and a table without fields it knows is such a record. To the
other it is a text, and no record.
-/
import AccessPolicy.Proofs.Decoding
import AccessPolicy.Proofs.Dialects

namespace AccessPolicy

/-! ## Readings that carry over -/

/-- What the one reading makes of a tree, the other makes of any alike tree. -/
def Carries {α : Type} (read read' : Tree → Except ReadError α) : Prop :=
  ∀ t u, t.Alike u → ∀ a, read t = .ok a → read' u = .ok a

namespace Carries

variable {α β : Type} {read read' : Tree → Except ReadError α}

theorem text : Carries Toml.format.text Layers.format.text := by
  intro t u h s hs
  cases h with
  | text => exact hs
  | _ => cases hs

theorem bool : Carries Toml.format.bool Layers.format.bool := by
  intro t u h b hb
  cases h with
  | bool => exact hb
  | _ => cases hb

theorem map (h : Carries read read') (f : α → β) :
    Carries (fun x => do return f (← read x)) (fun x => do return f (← read' x)) := by
  intro t u htu b hb
  obtain ⟨a, ha, hb⟩ := Except.bind_eq_ok.1 hb
  exact Except.bind_eq_ok.2 ⟨a, h t u htu a ha, hb⟩

theorem mapM (h : Carries read read') : ∀ {ts us : List Tree}, List.Forall₂ Tree.Alike ts us →
    ∀ {l : List α}, ts.mapM read = .ok l → us.mapM read' = .ok l
  | [], _, .nil, _, hl => hl
  | t :: ts, u :: us, .cons htu htus, l, hl => by
    rw [List.mapM_cons] at hl ⊢
    obtain ⟨a, ha, hl⟩ := Except.bind_eq_ok.1 hl
    obtain ⟨l', hl', hl⟩ := Except.bind_eq_ok.1 hl
    rw [h t u htu a ha, mapM h htus hl']
    exact hl

theorem list (h : Carries read read') :
    Carries (Toml.format.readList read) (Layers.format.readList read') := by
  intro t u htu l hl
  obtain ⟨items, hitems, hl⟩ := Except.bind_eq_ok.1 hl
  cases htu with
  | list hts =>
    cases hitems
    obtain ⟨l', hl', hl⟩ := Except.bind_eq_ok.1 hl
    show (do let values ← List.mapM read' _; Except.ok (); return values) = _
    rw [mapM h hts hl']
    exact hl
  | _ => cases hitems

theorem names : Carries Toml.format.readNames Layers.format.readNames :=
  text.list.map NameSet.ofList

/-- No tree says that there is no value. -/
theorem option (h : Carries read read') :
    Carries (Toml.format.readOption read) (Layers.format.readOption read') := by
  intro t u htu o ho
  have hnull : Layers.format.isNull u = false := by cases htu <;> rfl
  have ho : some <$> read t = .ok o := ho
  cases ht : read t with
  | error e =>
    rw [ht] at ho
    cases ho
  | ok a =>
    rw [ht] at ho
    rw [Format.readOption, hnull, h t u htu a ht]
    exact ho

end Carries

/-! ## Records -/

/-- The fields have one name, and what the one takes in the other does. -/
structure Field.Carries {σ : Type} (f f' : Field Tree σ) : Prop where
  name : f.name = f'.name
  required : f.required = f'.required
  read : ∀ state, AccessPolicy.Carries (f.read · state) (f'.read · state)

theorem Carries.field {α σ : Type} {read read' : Tree → Except ReadError α}
    (h : Carries read read') (name : String) (required : Bool) (put : α → σ → σ) :
    Field.Carries ⟨name, required, fun x r => do return put (← read x) r⟩
      ⟨name, required, fun x r => do return put (← read' x) r⟩ where
  name := rfl
  required := rfl
  read state := h.map (put · state)

section

variable {σ : Type} {fields fields' : List (Field Tree σ)}

theorem fieldOf?_carries (h : List.Forall₂ Field.Carries fields fields') (key : String) :
    Option.Rel Field.Carries (Format.fieldOf? fields key) (Format.fieldOf? fields' key) := by
  induction h with
  | nil => exact .none
  | cons hf _ ih =>
    rw [Format.fieldOf?, Format.fieldOf?, List.find?_cons, List.find?_cons, ← hf.name]
    split
    · exact .some hf
    · exact ih

theorem missing?_carries (h : List.Forall₂ Field.Carries fields fields') (seen : List String) :
    Format.missing? fields seen = Format.missing? fields' seen := by
  induction h with
  | nil => rfl
  | cons hf _ ih =>
    rw [Format.missing?, Format.missing?, List.find?_cons, List.find?_cons, ← hf.name, ← hf.required]
    split
    · exact congrArg some hf.name
    · exact ih

theorem any_required_carries (h : List.Forall₂ Field.Carries fields fields') :
    fields.any (·.required) = fields'.any (·.required) := by
  induction h with
  | nil => rfl
  | cons hf _ ih => rw [List.any_cons, List.any_cons, hf.required, ih]

/-- The values of a record in the order of its fields. -/
theorem readPositions_carries {name : String} {arity total : Nat} :
    ∀ {fields fields' : List (Field Tree σ)} {ts us : List Tree} {state r : σ},
      List.Forall₂ Field.Carries fields fields' → List.Forall₂ Tree.Alike ts us →
      Toml.format.readPositions name arity total fields state { list := ts } = .ok r →
      Layers.format.readPositions name arity total fields' state { list := us } = .ok r
  | [], _, ts, us, state, r, .nil, _, h => h
  | f :: fs, f' :: fs', [], _, state, r, .cons hf hfs, .nil, h => by
    rw [Format.readPositions] at h ⊢
    rw [← any_required_carries (.cons hf hfs)]
    exact h
  | f :: fs, f' :: fs', t :: ts, u :: us, state, r, .cons hf hfs, .cons htu htus, h => by
    rw [Format.readPositions] at h ⊢
    obtain ⟨state', hstate, h⟩ := Except.bind_eq_ok.1 h
    exact Except.bind_eq_ok.2 ⟨state', hf.read state t u htu state' hstate,
      readPositions_carries hfs htus h⟩

theorem foldlM_takeField_carries (hfields : List.Forall₂ Field.Carries fields fields')
    {es fs : List (String × Tree)} (hes : List.Forall₂ (Keyed Tree.Alike) es fs) :
    ∀ s s' : σ × List String,
      (Entries.ofList es).list.foldlM (Toml.format.takeField fields) s = .ok s' →
      (Entries.ofList fs).list.foldlM (Layers.format.takeField fields') s = .ok s' := by
  induction hes with
  | nil => exact fun _ _ => id
  | cons he _ ih =>
    obtain @⟨key, t, u, htu⟩ := he
    rintro ⟨state, seen⟩ s' h
    obtain ⟨s₁, hs₁, h⟩ := Except.bind_eq_ok.1 h
    refine Except.bind_eq_ok.2 ⟨s₁, ?_, ih s₁ s' h⟩
    have hkey : Option.Rel Field.Carries (fields.find? (·.name == key))
        (fields'.find? (·.name == key)) := fieldOf?_carries hfields key
    rw [Format.takeField] at hs₁ ⊢
    obtain ⟨_, ⟨⟩, hs₁⟩ := Except.bind_eq_ok.1 hs₁
    refine Except.bind_eq_ok.2 ⟨key, rfl, ?_⟩
    dsimp only at hs₁ ⊢
    generalize fields.find? (·.name == key) = f at hkey hs₁
    generalize fields'.find? (·.name == key) = f' at hkey ⊢
    cases hkey with
    | none => exact hs₁
    | some hf =>
      dsimp only at hs₁ ⊢
      split at hs₁
      · cases hs₁
      · rename_i hseen
        obtain ⟨state', hstate, hs₁⟩ := Except.bind_eq_ok.1 hs₁
        rw [if_neg hseen]
        exact Except.bind_eq_ok.2 ⟨state', hf.read state t u htu state' hstate, hs₁⟩

theorem readRecord_carries {name : String} {init r : σ}
    (hfields : List.Forall₂ Field.Carries fields fields') {t u : Tree} (htu : t.Alike u)
    (hu : ∀ s, u ≠ .text s) (h : Toml.format.readRecord name fields init t = .ok r) :
    Layers.format.readRecord name fields' init u = .ok r := by
  cases htu with
  | @list ts us hts =>
    have h : Toml.format.readPositions name fields.length ts.length fields init { list := ts } =
        .ok r := h
    show Layers.format.readPositions name fields'.length us.length fields' init { list := us } = _
    rw [← hfields.length_eq, ← hts.length_eq]
    exact readPositions_carries hfields hts h
  | table hes =>
    obtain ⟨seen, hfold, hmissing⟩ := (Format.readRecord_eq_ok rfl).1 h
    refine (Format.readRecord_eq_ok rfl).2 ⟨seen, foldlM_takeField_carries hfields hes _ _ hfold, ?_⟩
    rw [← missing?_carries hfields]
    exact hmissing
  | text s => exact absurd rfl (hu s)
  | date s => exact absurd rfl (hu s)
  | _ => cases h

end

/-! ## Policies -/

theorem claimFields_carry :
    List.Forall₂ Field.Carries Toml.format.claimFields Layers.format.claimFields :=
  .cons (Carries.text.field _ _ _) (.cons (Carries.names.field _ _ _) .nil)

/-- A date is no claim, which must have a type. -/
theorem Carries.claim : Carries Toml.format.readClaim Layers.format.readClaim := by
  intro t u htu c hc
  refine readRecord_carries claimFields_carry htu ?_ hc
  rintro s rfl
  cases htu with
  | text => cases hc
  | date =>
    obtain ⟨y, hy, -⟩ := ((Format.readClaim_eq_ok_iff (fun _ => rfl) rfl (by simp)).1 hc).type
    cases hy

theorem ruleFields_carry :
    List.Forall₂ Field.Carries Toml.format.ruleFields Layers.format.ruleFields :=
  .cons (Carries.names.field _ _ _) <| .cons (Carries.names.field _ _ _) <|
  .cons (Carries.names.option.field _ _ _) <| .cons (Carries.names.option.field _ _ _) <|
  .cons (Carries.claim.option.field _ _ _) <| .cons (Carries.claim.list.option.field _ _ _) .nil

/-- A rule, unless it is a date. -/
theorem readRule_carries {t u : Tree} (htu : t.Alike u) (hu : ∀ s, u ≠ .text s) {r : Rule}
    (h : Toml.format.readRule t = .ok r) : Layers.format.readRule u = .ok r :=
  readRecord_carries ruleFields_carry htu hu h

theorem foldlM_readRule_carries : ∀ {es fs : List (String × Tree)} {m m' : NameMap Rule},
    List.Forall₂ (Keyed Tree.Alike) es fs → (∀ e ∈ fs, ∀ s, e.2 ≠ .text s) →
    (Entries.ofList es).list.foldlM (fun m e => do
      let key ← e.1
      return m.insert key (← Toml.format.readRule e.2)) m = .ok m' →
    (Entries.ofList fs).list.foldlM (fun m e => do
      let key ← e.1
      return m.insert key (← Layers.format.readRule e.2)) m = .ok m'
  | [], _, _, _, .nil, _, h => h
  | (key, t) :: es, (_, u) :: fs, m, m', .cons (.mk htu) hes, hfs, h => by
    obtain ⟨hu, hfs⟩ := List.forall_mem_cons.1 hfs
    obtain ⟨m₁, hm₁, h⟩ := Except.bind_eq_ok.1 h
    refine Except.bind_eq_ok.2 ⟨m₁, ?_, foldlM_readRule_carries hes hfs h⟩
    obtain ⟨_, ⟨⟩, hm₁⟩ := Except.bind_eq_ok.1 hm₁
    obtain ⟨r, hr, hm₁⟩ := Except.bind_eq_ok.1 hm₁
    exact Except.bind_eq_ok.2 ⟨key, rfl, Except.bind_eq_ok.2 ⟨r, readRule_carries htu hu hr, hm₁⟩⟩

/-- The policies, unless some rule is a date. -/
theorem readPolicies_carries {t u : Tree} (htu : t.Alike u) (hu : ∀ e ∈ u.entries, ∀ s, e.2 ≠ .text s)
    {m : NameMap Rule} (h : Toml.format.readMap Toml.format.readRule t = .ok m) :
    Layers.format.readMap Layers.format.readRule u = .ok m := by
  cases htu with
  | @table es fs hes =>
    obtain ⟨_, ⟨⟩, h⟩ := Except.bind_eq_ok.1 h
    obtain ⟨m', hm', h⟩ := Except.bind_eq_ok.1 h
    exact Except.bind_eq_ok.2 ⟨_, rfl,
      Except.bind_eq_ok.2 ⟨m', foldlM_readRule_carries hes hu hm', h⟩⟩
  | _ => cases h

theorem loggingFields_carry :
    List.Forall₂ Field.Carries Toml.format.loggingFields Layers.format.loggingFields :=
  .cons (Carries.text.field _ _ _) (.cons (Carries.bool.field _ _ _) .nil)

end AccessPolicy
