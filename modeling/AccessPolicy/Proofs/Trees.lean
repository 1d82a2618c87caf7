/-
Trees by their paths of keys: what stands at a path, and what merging does to
it.

A path of plain keys is merged in like a tree with a single branch
(`KeyPath.set_eq_merge`), so that files, variables and whole layers are all
merged by the one operation `Tree.merge`. Tables whose keys increase stay so
(`Ordered.merge`), and the entries of merged tables are found key by key
(`find_mergeEntries`).
-/
import AccessPolicy.Layers.KeyPath

namespace AccessPolicy

namespace Tree

/-- What stands at a path of keys. -/
def at? : List String → Tree → Option Tree
  | [], t => some t
  | k :: ks, t => (NameMap.find k t.entries).bind (at? ks)

/-- The tree with a single branch, which leads along a path to a value. -/
def branch : List String → Tree → Tree
  | [], v => v
  | k :: ks, v => .table [(k, branch ks v)]

@[simp] theorem entries_table (es : List (String × Tree)) : (Tree.table es).entries = es := rfl

theorem at?_cons (k : String) (ks : List String) (t : Tree) :
    at? (k :: ks) t = (NameMap.find k t.entries).bind (at? ks) := rfl

theorem at?_of_entries_nil {k : String} {ks : List String} {t : Tree} (h : t.entries = []) :
    at? (k :: ks) t = none := by
  rw [at?_cons, h]
  rfl

/-- What stands at the first part of a path leads on to the rest. -/
theorem at?_append (ks ls : List String) (t : Tree) :
    at? (ks ++ ls) t = (at? ks t).bind (at? ls) := by
  induction ks generalizing t with
  | nil => rfl
  | cons k ks ih =>
    rw [List.cons_append, at?_cons, at?_cons]
    cases NameMap.find k t.entries with
    | none => rfl
    | some x => exact ih x

/-- Along a branch there is the rest of the branch, and nothing elsewhere. -/
theorem at?_branch (ks ls : List String) {v : Tree} (hv : v.entries = []) :
    at? ls (branch ks v) = if ls <+: ks then some (branch (ks.drop ls.length) v) else none := by
  induction ls generalizing ks with
  | nil => simp [at?]
  | cons l ls ih =>
    cases ks with
    | nil => simp [branch, at?_of_entries_nil hv]
    | cons k ks =>
      rw [branch, at?_cons, entries_table]
      by_cases hlk : l = k
      · subst hlk
        simp [NameMap.find, ih, List.cons_prefix_cons]
      · simp [NameMap.find, hlk, List.cons_prefix_cons]

/-! ## Trees whose tables are in order -/

/-- Every table in the tree has increasing keys. -/
inductive Ordered : Tree → Prop where
  | null : Ordered .null
  | bool (b : Bool) : Ordered (.bool b)
  | integer (i : Int) : Ordered (.integer i)
  | float (x : Binary64) : Ordered (.float x)
  | text (s : String) : Ordered (.text s)
  | list {ts : List Tree} : (∀ t ∈ ts, Ordered t) → Ordered (.list ts)
  | table {es : List (String × Tree)} : es.Pairwise (·.1 < ·.1) → (∀ e ∈ es, Ordered e.2) →
      Ordered (.table es)

theorem Ordered.empty : Ordered (.table []) := .table .nil (by simp)

theorem Ordered.items {ts : List Tree} (h : Ordered (.list ts)) : ∀ t ∈ ts, t.Ordered := by
  cases h; assumption

theorem Ordered.increasing {es : List (String × Tree)} (h : Ordered (.table es)) :
    es.Pairwise (·.1 < ·.1) := by
  cases h; assumption

theorem Ordered.entries {es : List (String × Tree)} (h : Ordered (.table es)) :
    ∀ e ∈ es, e.2.Ordered := by
  cases h; assumption

theorem Ordered.find {es : List (String × Tree)} (h : Ordered (.table es)) {k : String} {t : Tree}
    (hk : NameMap.find k es = some t) : t.Ordered := h.entries _ (NameMap.mem_of_find hk)

theorem Ordered.branch (ks : List String) {v : Tree} (h : v.Ordered) : (branch ks v).Ordered := by
  induction ks with
  | nil => exact h
  | cons k ks ih => exact .table (by simp) (by simpa using ih)

theorem Ordered.texts (l : List String) : (Tree.texts l).Ordered := by
  refine .list fun t ht => ?_
  obtain ⟨s, -, rfl⟩ := List.mem_map.1 ht
  exact .text s

theorem Ordered.place {es : List (String × Tree)} (h : Ordered (.table es)) (k : String) {t : Tree}
    (ht : t.Ordered) : Ordered (.table (NameMap.place k t es)) := by
  refine .table (NameMap.pairwise_place h.increasing) ?_
  rintro ⟨x, w⟩ hx
  have hfind := (NameMap.find_eq_some (NameMap.pairwise_place h.increasing)).2 hx
  rw [NameMap.find_place] at hfind
  split at hfind
  · cases hfind; exact ht
  · exact h.find hfind

/-- What stands under a key of the entries of an ordered tree, or `null`. -/
theorem Ordered.part {es : List (String × Tree)} (h : Ordered (.table es)) (k : String) :
    ((NameMap.find k es).getD .null).Ordered := by
  cases hk : NameMap.find k es with
  | none => exact .null
  | some t => exact h.find hk

theorem Ordered.tableEntries {t : Tree} (h : t.Ordered) : Ordered (.table t.entries) := by
  cases t with
  | table es => exact h
  | _ => exact .table .nil (by simp [Tree.entries])

theorem Ordered.at? : ∀ {ks : List String} {t u : Tree}, t.Ordered → t.at? ks = some u → u.Ordered
  | [], t, u, h, hu => by
    cases hu
    exact h
  | k :: ks, t, u, h, hu => by
    obtain ⟨y, hy, hyu⟩ := Option.bind_eq_some_iff.1 hu
    exact Ordered.at? (h.tableEntries.find hy) hyu

mutual
theorem Ordered.merge {x : Tree} (hx : x.Ordered) : ∀ {t : Tree}, t.Ordered → (merge x t).Ordered
  | .table es, ht => by
    rw [merge_table]
    exact Ordered.mergeEntries hx.tableEntries es ht.entries
  | .null, ht | .bool _, ht | .integer _, ht | .float _, ht | .text _, ht | .list _, ht => by
    rw [merge_scalar (by simp)]
    exact ht

theorem Ordered.mergeEntries {old : List (String × Tree)} (h : Ordered (.table old)) :
    ∀ es : List (String × Tree), (∀ e ∈ es, e.2.Ordered) →
      Ordered (.table (Tree.mergeEntries old es))
  | [], _ => by simpa [Tree.mergeEntries] using h
  | (k, t) :: es, hes => by
    rw [Tree.mergeEntries]
    have hmerge := Ordered.merge (h.part k) (t := t) (hes (k, t) (by simp))
    exact Ordered.mergeEntries (h.place k hmerge) es fun e he => hes e (by simp [he])
end

/-! ## Merging entries -/

theorem mergeEntries_append (old es es' : List (String × Tree)) :
    mergeEntries old (es ++ es') = mergeEntries (mergeEntries old es) es' := by
  induction es generalizing old with
  | nil => simp [mergeEntries]
  | cons e es ih =>
    obtain ⟨k, t⟩ := e
    rw [List.cons_append, mergeEntries, mergeEntries, ih]

/-- The entries of a table with another, whose keys increase, merged over them. -/
theorem find_mergeEntries {es : List (String × Tree)} (h : es.Pairwise (·.1 < ·.1))
    (old : List (String × Tree)) (k : String) :
    NameMap.find k (mergeEntries old es) = match NameMap.find k es with
      | none => NameMap.find k old
      | some t => some (merge ((NameMap.find k old).getD .null) t) := by
  induction es generalizing old with
  | nil => simp [mergeEntries, NameMap.find]
  | cons e es ih =>
    obtain ⟨k', t⟩ := e
    obtain ⟨hlt, hes⟩ := List.pairwise_cons.1 h
    rw [mergeEntries, ih hes]
    by_cases hk : k = k'
    · subst hk
      simp [NameMap.find_eq_none hlt, NameMap.find_place, NameMap.find]
    · simp only [NameMap.find_place, NameMap.find, hk, if_false]

/-- Merging a table is merging its entries one by one. -/
theorem foldl_merge_singletons (es : List (String × Tree)) (old : List (String × Tree)) :
    es.foldl (fun t e => merge t (.table [e])) (.table old) = .table (mergeEntries old es) := by
  induction es generalizing old with
  | nil => simp [mergeEntries]
  | cons e es ih =>
    rw [List.foldl_cons, merge_table, entries_table, ih, ← mergeEntries_append, List.singleton_append]

end Tree

/-! ## Paths of plain keys -/

namespace KeyPath

theorem change_merge (ks : List String) (v t : Tree) :
    change (fun old => old.merge v) (ks.map .key) t = t.merge (.branch ks v) := by
  induction ks generalizing t with
  | nil => rfl
  | cons k ks ih =>
    rw [List.map_cons, change, ih, Tree.branch, Tree.merge_table]
    simp only [Tree.mergeEntries]

/-- Merging in at a path of plain keys is merging the branch along the path. -/
theorem set_eq_merge (root : String) (ks : List String) (v t : Tree) :
    set ⟨root, ks.map .key⟩ v t = t.merge (.branch (root :: ks) v) :=
  change_merge (root :: ks) v t

end KeyPath

end AccessPolicy
