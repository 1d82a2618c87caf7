/-
The shapes of trees: which fields a table may have, and which values they may
take.

A shape says the same of a tree whether it is read or merged into another:
merging one tree of a shape over another gives a tree of the shape
(`admits_merge`), in which there stands at every path what the upper tree has
there, or else what the lower one has (`at?_merge`).
-/
import AccessPolicy.Proofs.Trees

namespace AccessPolicy

/-- What may stand in a tree. -/
inductive Shape where
  | text
  | bool
  | list (item : Shape)
  /-- A table of some fields; those that are required have to be there. -/
  | record (fields : List (String × Shape)) (required : List String)
  /-- A table of any keys. -/
  | map (value : Shape)

namespace Shape

mutual
/-- Whether a tree has the shape. -/
def admits : Shape → Tree → Bool
  | .text, .text _ => true
  | .bool, .bool _ => true
  | .list item, .list ts => ts.all fun t => item.admits t
  | .record fields required, .table es =>
    (es.all fun e => admitsField fields e.1 e.2) && required.all fun k => (NameMap.find k es).isSome
  | .map value, .table es => es.all fun e => value.admits e.2
  | _, _ => false

/-- Whether a tree has the shape of the named one of some fields. -/
def admitsField : List (String × Shape) → String → Tree → Bool
  | [], _, _ => false
  | (k, s) :: fields, key, t => if key = k then s.admits t else admitsField fields key t
end

/-- Whether trees of the shape are tables. -/
def isTable : Shape → Bool
  | .record _ _ | .map _ => true
  | _ => false

/-- The shape of what stands under a key of a table of the shape. -/
def entry? : Shape → String → Option Shape
  | .record fields _, k => NameMap.find k fields
  | .map value, _ => some value
  | _, _ => none

/-- The fields that have to be there. -/
def required : Shape → List String
  | .record _ required => required
  | _ => []

theorem admitsField_iff {fields : List (String × Shape)} {k : String} {t : Tree} :
    admitsField fields k t = true ↔ ∃ s, NameMap.find k fields = some s ∧ s.admits t = true := by
  induction fields with
  | nil => simp [admitsField, NameMap.find]
  | cons f fields ih =>
    obtain ⟨k', s⟩ := f
    by_cases hk : k = k' <;> simp [admitsField, NameMap.find, hk, ih]

/-- The entries of a table have the shapes that they should have. -/
def AdmitsEntries (s : Shape) (es : List (String × Tree)) : Prop :=
  ∀ e ∈ es, ∃ s', s.entry? e.1 = some s' ∧ s'.admits e.2 = true

theorem admits_table_iff {s : Shape} {es : List (String × Tree)} :
    s.admits (.table es) = true ↔
      s.isTable = true ∧ s.AdmitsEntries es ∧ ∀ k ∈ s.required, (NameMap.find k es).isSome = true := by
  cases s with
  | record fields required =>
    simp [admits, isTable, AdmitsEntries, entry?, Shape.required, admitsField_iff]
  | map value => simp [admits, isTable, AdmitsEntries, entry?, Shape.required]
  | _ => simp [admits, isTable]

theorem exists_table {s : Shape} (hs : s.isTable = true) {t : Tree} (h : s.admits t = true) :
    ∃ es, t = .table es := by
  cases s <;> cases t <;> simp_all [admits, isTable]

/-- A tree of a shape without entries is no table. -/
theorem ne_table {s : Shape} (hs : s.isTable = false) {t : Tree} (h : s.admits t = true) :
    ∀ es, t ≠ .table es := by
  rintro es rfl
  rw [admits_table_iff, hs] at h
  cases h.1

theorem entries_eq_nil {t : Tree} (h : ∀ es, t ≠ .table es) : t.entries = [] := by
  cases t <;> simp_all [Tree.entries]

theorem AdmitsEntries.find {s : Shape} {es : List (String × Tree)} (h : s.AdmitsEntries es)
    {k : String} {t : Tree} (hk : NameMap.find k es = some t) :
    ∃ s', s.entry? k = some s' ∧ s'.admits t = true := h (k, t) (NameMap.mem_of_find hk)

theorem AdmitsEntries.place {s : Shape} {es : List (String × Tree)} (h : s.AdmitsEntries es)
    (ho : Tree.Ordered (.table es)) {k : String} {t : Tree} {s' : Shape}
    (hs : s.entry? k = some s') (ht : s'.admits t = true) :
    s.AdmitsEntries (NameMap.place k t es) := by
  rintro ⟨x, w⟩ hx
  have hfind := (NameMap.find_eq_some (NameMap.pairwise_place ho.increasing)).2 hx
  rw [NameMap.find_place] at hfind
  split at hfind
  · rename_i hxk
    cases hfind
    exact ⟨s', hxk ▸ hs, ht⟩
  · exact h.find hfind

/-! ## Merging -/

/-- A tree that something of the shape may be merged over. -/
def Below (s : Shape) (t : Tree) : Prop := t = .null ∨ s.admits t = true

theorem Below.entries {s : Shape} {t : Tree} (h : s.Below t) : s.AdmitsEntries t.entries := by
  rcases h with rfl | h
  · exact fun e he => absurd he (by simp [Tree.entries])
  · cases t with
    | table es => exact (admits_table_iff.1 h).2.1
    | _ => exact fun e he => absurd he (by simp [Tree.entries])

theorem AdmitsEntries.below {s s' : Shape} {es : List (String × Tree)} (h : s.AdmitsEntries es)
    {k : String} (hs : s.entry? k = some s') : s'.Below ((NameMap.find k es).getD .null) := by
  cases hk : NameMap.find k es with
  | none => exact .inl rfl
  | some t =>
    obtain ⟨s'', hs'', ht⟩ := h.find hk
    rw [hs] at hs''
    cases hs''
    exact .inr ht

mutual
theorem admits_merge {s : Shape} {x : Tree} (hx : s.Below x) (ho : x.Ordered) :
    ∀ {t : Tree}, s.admits t = true → t.Ordered → s.admits (x.merge t) = true
  | .table es, ht, hot => by
    obtain ⟨htable, hes, hreq⟩ := admits_table_iff.1 ht
    rw [Tree.merge_table, admits_table_iff]
    refine ⟨htable, admitsEntries_mergeEntries hx.entries ho.tableEntries es hes hot.entries, ?_⟩
    intro k hk
    rw [Tree.find_mergeEntries hot.increasing]
    obtain ⟨t, ht⟩ := Option.isSome_iff_exists.1 (hreq k hk)
    rw [ht]
    rfl
  | .null, ht, _ | .bool _, ht, _ | .integer _, ht, _ | .float _, ht, _ | .text _, ht, _
  | .list _, ht, _ => by
    rw [Tree.merge_scalar (by simp)]
    exact ht

theorem admitsEntries_mergeEntries {s : Shape} {old : List (String × Tree)}
    (h : s.AdmitsEntries old) (ho : Tree.Ordered (.table old)) :
    ∀ es : List (String × Tree), s.AdmitsEntries es → (∀ e ∈ es, e.2.Ordered) →
      s.AdmitsEntries (Tree.mergeEntries old es)
  | [], _, _ => by simpa [Tree.mergeEntries] using h
  | (k, t) :: es, hes, hoes => by
    rw [Tree.mergeEntries]
    obtain ⟨s', hs', ht⟩ := hes (k, t) (by simp)
    have hot : t.Ordered := hoes (k, t) (by simp)
    have hmerge := admits_merge (h.below hs') (ho.part k) ht hot
    have hplace := ho.place k (Tree.Ordered.merge (ho.part k) hot)
    exact admitsEntries_mergeEntries (h.place ho hs' hmerge) hplace es
      (fun e he => hes e (by simp [he])) fun e he => hoes e (by simp [he])
end

theorem Below.entries_eq_nil {s : Shape} {x t : Tree} (hx : s.Below x) (ht : s.admits t = true)
    (hne : ∀ es, t ≠ .table es) : x.entries = [] := by
  rcases hx with rfl | hx
  · rfl
  · refine Shape.entries_eq_nil (ne_table ?_ hx)
    rw [Bool.eq_false_iff]
    intro hs
    obtain ⟨es, rfl⟩ := exists_table hs ht
    exact hne es rfl

theorem at?_getD_null {ks : List String} (hks : ks ≠ []) (x : Option Tree) :
    (x.getD .null).at? ks = x.bind (Tree.at? ks) := by
  cases x with
  | some y => rfl
  | none =>
    cases ks with
    | nil => exact absurd rfl hks
    | cons k ks => exact Tree.at?_of_entries_nil rfl

theorem at?_getD_null_getD (ks : List String) (x : Option Tree) :
    ((x.getD .null).at? ks).getD .null = (x.bind (Tree.at? ks)).getD .null := by
  cases ks with
  | nil => cases x <;> rfl
  | cons k ks => rw [at?_getD_null (by simp)]

/-- What stands at a path of a tree that was merged over another of the same
shape: what the upper tree has there, merged over what the lower one has. -/
theorem at?_merge (path : List String) : ∀ {s : Shape} {x t : Tree}, s.Below x →
    s.admits t = true → t.Ordered →
    (x.merge t).at? path = match t.at? path with
      | none => x.at? path
      | some v => some (((x.at? path).getD .null).merge v) := by
  induction path with
  | nil => intro _ _ _ _ _ _; rfl
  | cons k ks ih =>
    intro s x t hx ht ho
    by_cases htable : ∃ es, t = .table es
    · obtain ⟨es, rfl⟩ := htable
      have hes := (admits_table_iff.1 ht).2.1
      rw [Tree.merge_table, Tree.at?_cons, Tree.at?_cons, Tree.at?_cons, Tree.entries_table,
        Tree.entries_table, Tree.find_mergeEntries ho.increasing]
      cases hk : NameMap.find k es with
      | none => rfl
      | some t' =>
        obtain ⟨s', hs', ht'⟩ := hes.find hk
        simp only [Option.bind_some]
        rw [ih (hx.entries.below hs') ht' (ho.find hk), at?_getD_null_getD]
        cases hks : t'.at? ks with
        | some v => rfl
        | none =>
          refine at?_getD_null ?_ _
          rintro rfl
          cases hks
    · have hne : ∀ es, t ≠ .table es := fun es he => htable ⟨es, he⟩
      rw [Tree.merge_scalar hne, Tree.at?_of_entries_nil (entries_eq_nil hne),
        Tree.at?_of_entries_nil (hx.entries_eq_nil ht hne)]

end Shape

end AccessPolicy
