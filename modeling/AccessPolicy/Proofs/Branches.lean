/-
Branches that lead to different places: in what order they are merged in makes
no difference (`Tree.merge_branch_comm`), and so a pile of them may be merged in
any order (`Layer.overlay_perm`).

Two places are different here if neither lies on the way to the other
(`Tree.Apart`). Nothing is assumed of the tree below: where something stands in
the way of a branch, it makes place for tables that both branches share.

A branch can be merged into one of two trees or into what they are merged to, if
in the upper tree nothing stands in its way (`Tree.Open`,
`Tree.merge_merge_branch`).
-/
import AccessPolicy.Proofs.Environment

namespace AccessPolicy

namespace Tree

/-! ## Two branches -/

/-- Neither path leads on from the other. -/
def Apart (p q : List String) : Prop := ¬ p <+: q ∧ ¬ q <+: p

instance (p q : List String) : Decidable (Apart p q) := inferInstanceAs (Decidable (_ ∧ _))

theorem Apart.symm {p q : List String} (h : Apart p q) : Apart q p := ⟨h.2, h.1⟩

theorem Apart.ne {p q : List String} (h : Apart p q) : p ≠ q := by
  rintro rfl
  exact h.1 (List.prefix_refl p)

theorem Apart.of_cons {k : String} {p q : List String} (h : Apart (k :: p) (k :: q)) : Apart p q := by
  simpa [Apart, List.cons_prefix_cons] using h

theorem not_apart_nil (q : List String) : ¬ Apart [] q := fun h => h.1 List.nil_prefix

/-- A tree over one without entries is that tree. -/
theorem Ordered.merge_of_entries_nil {t : Tree} (ht : t.Ordered) :
    ∀ {x : Tree}, x.entries = [] → x.merge t = t := by
  induction ht with
  | table hincreasing hes ih =>
    rename_i es
    intro x hx
    have hnil : Ordered (.table []) := .empty
    have hmerged := (Ordered.mergeEntries hnil es hes).increasing
    rw [merge_table, hx]
    refine congrArg (fun m : NameMap Tree => Tree.table m.toList)
      (NameMap.ext (m := ⟨_, hmerged⟩) (n := ⟨es, hincreasing⟩) fun k => ?_)
    show NameMap.find k (Tree.mergeEntries [] es) = NameMap.find k es
    rw [find_mergeEntries hincreasing]
    cases hk : NameMap.find k es with
    | none => rfl
    | some u => exact congrArg some (ih _ (NameMap.mem_of_find hk) rfl)
  | _ => exact fun _ => merge_scalar (by simp)

theorem merge_branch_cons (k : String) (ks : List String) (v t : Tree) :
    t.merge (branch (k :: ks) v) =
      .table (NameMap.place k (((NameMap.find k t.entries).getD .null).merge (branch ks v)) t.entries) := by
  simp [branch, merge_table, mergeEntries]

theorem Apart.parts : ∀ {p q : List String}, Apart p q → KeyPath.Parts (p.map .key) (q.map .key)
  | [], q, h => absurd h (not_apart_nil q)
  | p, [], h => absurd h.symm (not_apart_nil p)
  | k :: p, k' :: q, h => by
    by_cases hk : k = k'
    · subst hk
      exact .inr h.of_cons.parts
    · exact .inl hk

/-- Branches that lead to different places may be merged in in any order. -/
theorem merge_branch_comm {p q : List String} (h : Apart p q) (t v w : Tree) :
    (t.merge (branch p v)).merge (branch q w) = (t.merge (branch q w)).merge (branch p v) := by
  simp only [← KeyPath.change_merge]
  exact (KeyPath.change_comm _ _ h.parts t).symm

/-! ## Open ways -/

/-- On the way along a path there are tables, as far as there is anything. -/
def Open : List String → List (String × Tree) → Prop
  | [], _ => True
  | k :: ks, es => ks ≠ [] → ∀ u, NameMap.find k es = some u → ∃ us, u = .table us ∧ Open ks us

theorem Open.nil (p : List String) : Open p [] := by
  cases p with
  | nil => trivial
  | cons k ks => exact fun _ _ hu => by cases hu

instance decidableOpen : ∀ (p : List String) (es : List (String × Tree)), Decidable (Open p es)
  | [], _ => isTrue trivial
  | k :: ks, es =>
    if hks : ks = [] then isTrue fun h => absurd hks h
    else match hk : NameMap.find k es with
      | none => isTrue fun _ u hu => by cases hk.symm.trans hu
      | some (.table us) =>
        match decidableOpen ks us with
        | isTrue h => isTrue fun _ u hu => ⟨us, (Option.some.inj (hk.symm.trans hu)).symm, h⟩
        | isFalse h => isFalse fun hopen => by
          obtain ⟨us', hus', hopen⟩ := hopen hks _ hk
          cases hus'
          exact h hopen
      | some .null | some (.bool _) | some (.integer _) | some (.float _) | some (.text _)
      | some (.list _) => isFalse fun hopen => by
          obtain ⟨us', hus', -⟩ := hopen hks _ hk
          cases hus'

theorem Open.part {k : String} {ks : List String} {es : List (String × Tree)} (h : Open (k :: ks) es) :
    Open ks ((NameMap.find k es).getD .null).entries := by
  cases ks with
  | nil => trivial
  | cons k' ks =>
    cases hu : NameMap.find k es with
    | none => exact Open.nil _
    | some u =>
      obtain ⟨us, rfl, hus⟩ := h (by simp) u hu
      exact hus

/-- A way stays open if a branch is merged in that leads elsewhere. -/
theorem Open.merge_branch (v : Tree) : ∀ {p q : List String} {t : Tree}, Open p t.entries →
    Apart p q → Open p (t.merge (branch q v)).entries
  | [], q, _, _, hapart => absurd hapart (not_apart_nil q)
  | p, [], _, _, hapart => absurd hapart.symm (not_apart_nil p)
  | k :: ks, k' :: qs, t, h, hapart => by
    rw [merge_branch_cons, entries_table]
    intro hks u hu
    rw [NameMap.find_place] at hu
    by_cases hk : k = k'
    · subst hk
      rw [if_pos rfl] at hu
      obtain ⟨q, qs, rfl⟩ : ∃ q qs', qs = q :: qs' := by
        refine List.exists_cons_of_ne_nil ?_
        rintro rfl
        exact not_apart_nil ks hapart.of_cons.symm
      have hopen := Open.merge_branch v h.part hapart.of_cons
      rw [merge_branch_cons] at hu hopen
      exact ⟨_, (Option.some.inj hu).symm, hopen⟩
    · rw [if_neg hk] at hu
      exact h hks u hu

/-- A way that is open in two trees is open in what they are merged to. -/
theorem Open.merge : ∀ {p : List String} {t : Tree} {es : List (String × Tree)}, Open p t.entries →
    Open p es → Ordered (.table es) → Open p (t.merge (.table es)).entries
  | [], _, _, _, _, _ => trivial
  | k :: ks, t, es, ht, hes, ho => by
    rw [merge_table, entries_table]
    intro hks u hu
    rw [find_mergeEntries ho.increasing] at hu
    cases hk : NameMap.find k es with
    | none =>
      rw [hk] at hu
      exact ht hks u hu
    | some w =>
      rw [hk] at hu
      obtain ⟨ws, rfl, hws⟩ := hes hks w hk
      have hopen := Open.merge ht.part hws (ho.find hk)
      have hu' : Tree.merge _ (.table ws) = u := Option.some.inj hu
      rw [merge_table] at hu' hopen
      exact ⟨_, hu'.symm, hopen⟩

theorem mergeEntries_place {es old : List (String × Tree)} (ho : Ordered (.table es))
    (hold : Ordered (.table old)) (k : String) {t : Tree} (ht : t.Ordered) :
    mergeEntries old (NameMap.place k t es) =
      NameMap.place k (((NameMap.find k old).getD .null).merge t) (mergeEntries old es) := by
  have hplace := ho.place k ht
  have hleft := (Ordered.mergeEntries hold _ hplace.entries).increasing
  have hright :=
    ((Ordered.mergeEntries hold es ho.entries).place k ((hold.part k).merge ht)).increasing
  refine congrArg NameMap.toList (NameMap.ext (m := ⟨_, hleft⟩) (n := ⟨_, hright⟩) fun x => ?_)
  show NameMap.find x _ = NameMap.find x _
  rw [find_mergeEntries hplace.increasing, NameMap.find_place, NameMap.find_place,
    find_mergeEntries ho.increasing]
  by_cases hx : x = k
  · subst hx
    simp
  · simp [hx]

/-- A branch goes over two trees, or over the upper one before that goes over
the lower, if in the upper one its way is open. -/
theorem merge_merge_branch {v : Tree} (hv : ∀ es, v ≠ .table es) (hvo : v.Ordered) :
    ∀ {p : List String} {t : Tree} {es : List (String × Tree)}, Ordered (.table es) → t.Ordered →
      Open p es → (t.merge (.table es)).merge (branch p v) = t.merge ((Tree.table es).merge (branch p v))
  | [], t, es, _, _, _ => by
    rw [branch, merge_scalar hv, merge_scalar hv, merge_scalar hv]
  | k :: ks, t, es, ho, hto, hopen => by
    have hpart := (ho.part k).merge (Ordered.branch ks hvo)
    -- what stands at the first name, from both sides
    have hat : ((NameMap.find k (mergeEntries t.entries es)).getD .null).merge (branch ks v) =
        ((NameMap.find k t.entries).getD .null).merge
          (((NameMap.find k es).getD .null).merge (branch ks v)) := by
      rw [find_mergeEntries ho.increasing]
      cases hk : NameMap.find k es with
      | none =>
        rw [Option.getD_none, (Ordered.branch ks hvo).merge_of_entries_nil (x := .null) rfl]
      | some u =>
        show (Tree.merge _ u).merge (branch ks v) = Tree.merge _ (u.merge (branch ks v))
        cases ks with
        | nil => rw [branch, merge_scalar hv, merge_scalar hv, merge_scalar hv]
        | cons k' ks =>
          obtain ⟨us, rfl, hus⟩ := hopen (by simp) u hk
          exact merge_merge_branch hv hvo (ho.find hk) (hto.tableEntries.part k) hus
    rw [merge_table, merge_branch_cons, merge_branch_cons, merge_table, entries_table, entries_table,
      hat, mergeEntries_place ho hto.tableEntries k hpart]

end Tree

/-! ## Many branches -/

namespace Layer

/-- The two entries lead to different places. -/
def Apart (e e' : String × Tree) : Prop := Tree.Apart (Text.splitAt '.' e.1) (Text.splitAt '.' e'.1)

instance (e e' : String × Tree) : Decidable (Apart e e') := inferInstanceAs (Decidable (Tree.Apart _ _))

instance : Std.Symm Apart := ⟨fun _ _ h => Tree.Apart.symm h⟩

/-- A branch that leads elsewhere than those after it may as well come last. -/
theorem overlay_middle {l l' : Layer} {e : String × Tree} (h : ∀ e' ∈ l', Apart e e') (t : Tree) :
    Shape.overlay t ((l ++ e :: l').map branch) =
      (Shape.overlay t ((l ++ l').map branch)).merge (branch e) := by
  have hlast : ∀ {l' : Layer} (t : Tree), (∀ e' ∈ l', Apart e e') →
      Shape.overlay (t.merge (branch e)) (l'.map branch) =
        (Shape.overlay t (l'.map branch)).merge (branch e) := by
    intro l'
    induction l' with
    | nil => exact fun _ _ => rfl
    | cons e' l' ih =>
      intro t h
      obtain ⟨he', hl'⟩ := List.forall_mem_cons.1 h
      show Shape.overlay ((t.merge (branch e)).merge (branch e')) (l'.map branch) =
        (Shape.overlay (t.merge (branch e')) (l'.map branch)).merge (branch e)
      rw [← ih _ hl', branch, branch, Tree.merge_branch_comm he']
  simp only [Shape.overlay, List.map_append, List.map_cons, List.foldl_append, List.foldl_cons]
  exact hlast _ h

/-- A way stays open if branches are merged in that lead elsewhere. -/
theorem open_overlay {p : List String} : ∀ {l : Layer} {t : Tree},
    (∀ e ∈ l, Tree.Apart p (Text.splitAt '.' e.1)) → Tree.Open p t.entries →
    Tree.Open p (Shape.overlay t (l.map branch)).entries
  | [], _, _, ht => ht
  | e :: l, t, h, ht => by
    obtain ⟨he, hl⟩ := List.forall_mem_cons.1 h
    exact open_overlay (t := t.merge (branch e)) hl (ht.merge_branch e.2 he)

/-- A pile of branches that lead to different places may be merged in any order. -/
theorem overlay_perm {l l' : Layer} (h : l.Pairwise Apart) (hperm : l.Perm l') (t : Tree) :
    Shape.overlay t (l.map branch) = Shape.overlay t (l'.map branch) := by
  simp only [Shape.overlay, List.foldl_map]
  refine hperm.foldl_eq' (fun e he e' he' u => ?_) t
  by_cases heq : e = e'
  · rw [heq]
  · exact Tree.merge_branch_comm (h.forall he he' heq) u e.2 e'.2

end Layer

end AccessPolicy
