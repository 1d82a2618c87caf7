/-
Trees of one shape, merged one over the other.

At a path where no table can stand, the topmost tree that has something there
decides, and of the others nothing is left (`at?_overlay`). Other paths are
there if they are in any of the trees (`isSome_at?_overlay`). So tables are
united, and texts, truth values and lists are replaced as a whole.
-/
import AccessPolicy.Proofs.Shapes

namespace AccessPolicy

/-! ## Paths in shapes -/

namespace Shape

/-- The shape of what stands at a path. -/
def path? : Shape → List String → Option Shape
  | s, [] => some s
  | s, k :: ks => (s.entry? k).bind (path? · ks)

/-- A path at which no table can stand. -/
def IsLeaf (s : Shape) (path : List String) : Prop := ∃ s', s.path? path = some s' ∧ s'.isTable = false

theorem admits_at? : ∀ {path : List String} {s : Shape} {t v : Tree}, s.admits t = true →
    t.at? path = some v → ∃ s', s.path? path = some s' ∧ s'.admits v = true
  | [], s, t, v, h, hv => by
    cases hv
    exact ⟨s, rfl, h⟩
  | k :: ks, s, t, v, h, hv => by
    obtain ⟨y, hy, hyv⟩ := Option.bind_eq_some_iff.1 hv
    cases t with
    | table es =>
      obtain ⟨s', hs', hadmits⟩ := (admits_table_iff.1 h).2.1.find hy
      obtain ⟨s'', hs'', hv'⟩ := admits_at? hadmits hyv
      exact ⟨s'', by rw [path?, hs', Option.bind_some, hs''], hv'⟩
    | _ => cases hy

theorem IsLeaf.ne_table {s : Shape} {path : List String} (hp : s.IsLeaf path) {t v : Tree}
    (h : s.admits t = true) (hv : t.at? path = some v) : ∀ es, v ≠ .table es := by
  obtain ⟨s', hs', hadmits⟩ := admits_at? h hv
  obtain ⟨s'', hs'', hleaf⟩ := hp
  cases hs'.symm.trans hs''
  exact Shape.ne_table hleaf hadmits

/-! ## Two trees -/

variable {s : Shape} {x t : Tree} {path : List String}

/-- At a leaf, the upper tree decides if it has something there. -/
theorem at?_merge_leaf (hp : s.IsLeaf path) (hx : s.Below x) (ht : s.admits t = true)
    (ho : t.Ordered) : (x.merge t).at? path = (t.at? path).or (x.at? path) := by
  rw [at?_merge path hx ht ho]
  cases hv : t.at? path with
  | none => rfl
  | some v =>
    show some (Tree.merge _ v) = _
    rw [Tree.merge_scalar (hp.ne_table ht hv), Option.some_or]

theorem isSome_at?_merge (hx : s.Below x) (ht : s.admits t = true) (ho : t.Ordered) :
    ((x.merge t).at? path).isSome = ((t.at? path).isSome || (x.at? path).isSome) := by
  rw [at?_merge path hx ht ho]
  cases t.at? path <;> simp

/-! ## Many trees -/

/-- All trees have the shape, and tables whose keys increase. -/
def AdmitsAll (s : Shape) (ts : List Tree) : Prop := ∀ t ∈ ts, s.admits t = true ∧ t.Ordered

/-- The trees on top of a tree, the first directly on it. -/
def overlay (x : Tree) (ts : List Tree) : Tree := ts.foldl Tree.merge x

theorem overlay_admits : ∀ {ts : List Tree} {x : Tree}, s.admits x = true → x.Ordered →
    s.AdmitsAll ts → s.admits (overlay x ts) = true ∧ (overlay x ts).Ordered
  | [], _, hx, ho, _ => ⟨hx, ho⟩
  | t :: ts, x, hx, ho, hts => by
    obtain ⟨⟨ht, hot⟩, hts⟩ := List.forall_mem_cons.1 hts
    show s.admits (overlay (x.merge t) ts) = true ∧ (overlay (x.merge t) ts).Ordered
    exact overlay_admits (admits_merge (.inr hx) ho ht hot) (ho.merge hot) hts

/-- **What a pile of trees has at a leaf.** The topmost tree that has something
there decides. -/
theorem at?_overlay (hp : s.IsLeaf path) : ∀ {ts : List Tree} {x : Tree}, s.admits x = true →
    x.Ordered → s.AdmitsAll ts →
    (overlay x ts).at? path = (ts.reverse.findSome? (Tree.at? path)).or (x.at? path)
  | [], x, _, _, _ => rfl
  | t :: ts, x, hx, ho, hts => by
    obtain ⟨⟨ht, hot⟩, hts⟩ := List.forall_mem_cons.1 hts
    show (overlay (x.merge t) ts).at? path = _
    rw [at?_overlay hp (admits_merge (.inr hx) ho ht hot) (ho.merge hot) hts,
      at?_merge_leaf hp (.inr hx) ht hot, List.reverse_cons, List.findSome?_append, Option.or_assoc]
    cases hv : t.at? path <;> simp [hv]

/-- **Where a pile of trees has something.** At a path of some tree in it. -/
theorem isSome_at?_overlay : ∀ {ts : List Tree} {x : Tree}, s.admits x = true →
    x.Ordered → s.AdmitsAll ts →
    (((overlay x ts).at? path).isSome = true ↔
      (∃ t ∈ ts, (t.at? path).isSome = true) ∨ (x.at? path).isSome = true)
  | [], x, _, _, _ => by simp [overlay]
  | t :: ts, x, hx, ho, hts => by
    obtain ⟨⟨ht, hot⟩, hts⟩ := List.forall_mem_cons.1 hts
    show ((overlay (x.merge t) ts).at? path).isSome = true ↔ _
    rw [isSome_at?_overlay (admits_merge (.inr hx) ho ht hot) (ho.merge hot) hts,
      isSome_at?_merge (.inr hx) ht hot, Bool.or_eq_true, ← or_assoc]
    refine or_congr_left ?_
    simp only [List.mem_cons, exists_eq_or_imp]
    exact or_comm

end Shape

end AccessPolicy
