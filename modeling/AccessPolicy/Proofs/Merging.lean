/-
Layers of any kind are merged to ordered trees: no table has a key twice
(`Stack.merged_ordered`).

Nothing is assumed of the layers but that they can be read. A path may lead
anywhere, by keys and by indices, and through values that stand in its way.
-/
import AccessPolicy.Proofs.Environment
import AccessPolicy.Proofs.FileLayers
import AccessPolicy.Proofs.Loading

namespace AccessPolicy

/-! ## Paths -/

theorem forall_mem_modify {α : Type} {P : α → Prop} {f : α → α} (hf : ∀ x, P x → P (f x)) :
    ∀ {l : List α} {n : Nat}, (∀ x ∈ l, P x) → ∀ x ∈ l.modify n f, P x
  | [], n, _ => by simp
  | x :: l, 0, h => by
    obtain ⟨hx, hl⟩ := List.forall_mem_cons.1 h
    rw [List.modify_zero_cons, List.forall_mem_cons]
    exact ⟨hf x hx, hl⟩
  | x :: l, n + 1, h => by
    obtain ⟨hx, hl⟩ := List.forall_mem_cons.1 h
    rw [List.modify_succ_cons, List.forall_mem_cons]
    exact ⟨hx, forall_mem_modify hf hl⟩

namespace KeyPath

theorem changeAt_ordered {f : Tree → Tree} (hf : ∀ t, t.Ordered → (f t).Ordered) (i : Int)
    {l : List Tree} (hl : ∀ t ∈ l, t.Ordered) : ∀ t ∈ changeAt f i l, t.Ordered := by
  have hnulls : ∀ n, ∀ t ∈ List.replicate n Tree.null, t.Ordered := by
    intro n t ht
    rw [List.eq_of_mem_replicate ht]
    exact .null
  refine forall_mem_modify hf (List.forall_mem_append.2 ⟨?_, hnulls _⟩)
  split
  · exact List.forall_mem_append.2 ⟨hnulls _, hl⟩
  · exact hl

theorem change_ordered {f : Tree → Tree} (hf : ∀ t, t.Ordered → (f t).Ordered) :
    ∀ (steps : List PathStep) {t : Tree}, t.Ordered → (change f steps t).Ordered
  | [], t, ht => hf t ht
  | .key name :: steps, _, ht =>
    ht.tableEntries.place name (change_ordered hf steps (ht.tableEntries.part name))
  | .index i :: steps, _, ht =>
    .list (changeAt_ordered (fun _ hu => change_ordered hf steps hu) i ht.mem_items)

theorem set_ordered (p : KeyPath) {v t : Tree} (hv : v.Ordered) (ht : t.Ordered) :
    (p.set v t).Ordered :=
  change_ordered (fun _ hu => hu.merge hv) _ ht

end KeyPath

/-! ## Layers -/

/-- The tree is a table, and all tables in it are in order. -/
def Tree.IsOrderedTable (t : Tree) : Prop := t.Ordered ∧ ∃ es, t = .table es

theorem Layer.mergeOver_isOrderedTable : ∀ (layer : Layer) {t : Tree},
    (∀ e ∈ layer, e.2.Ordered) → t.IsOrderedTable → (mergeOver t layer).IsOrderedTable
  | [], _, _, ht => ht
  | e :: layer, t, h, ⟨ht, _⟩ => by
    obtain ⟨he, hlayer⟩ := List.forall_mem_cons.1 h
    exact mergeOver_isOrderedTable layer hlayer
      ⟨(KeyPath.ofText e.1).set_ordered he ht, _, rfl⟩

namespace Variables

theorem lists_ordered (order : List KeyPath) {l : Layer} (h : ∀ e ∈ l, e.2.Ordered) :
    (lists order l).Ordered :=
  (Layer.mergeOver_isOrderedTable _ (fun e he => h e (mem_of_mem_inOrder he)) ⟨.empty, [], rfl⟩).1

theorem overrides_ordered {marker : String} {environment : List Variable} {l : Layer}
    (h : overrides marker environment = .ok l) : ∀ e ∈ l, e.2.Ordered := by
  intro e he
  obtain ⟨v, -, -, -, htexts⟩ := exists_of_mem_overrides h he
  rw [htexts]
  exact .texts _

theorem scalars_ordered (order : List String) (marker : String) (environment : List Variable)
    {e : String × Tree} (h : e ∈ (scalars order marker environment).toList) : e.2.Ordered := by
  rw [scalars_eq] at h
  obtain ⟨v, -, hv⟩ := List.mem_filterMap.1 (NameMap.mem_of_mem_ofList h)
  obtain ⟨key, -, rfl⟩ := Option.map_eq_some_iff.1 hv
  exact (scalar_entries v.2).2

end Variables

/-! ## Stacks -/

namespace Stack

theorem taken_ordered {room : Nat} {order : List String} {source : Option Layer} {layer : Layer}
    (h : taken room order source = .ok layer)
    (hsource : ∀ es, source = some es → ∀ e ∈ es, e.2.Ordered) : ∀ e ∈ layer, e.2.Ordered := by
  obtain ⟨es, hes, -, rfl⟩ := taken_eq_ok_iff.1 h
  exact fun e he => hsource es hes e (mem_arrange.1 he)

/-- The layers over the defaults have their values in order. -/
theorem exists_layers_upper {s : Stack} {ls : List Layer} (h : s.layers = .ok ls) :
    ∃ upper, ls = ({} : Settings).toTree.entries :: upper ∧
      ∀ layer ∈ upper, ∀ e ∈ layer, e.2.Ordered := by
  obtain ⟨lists, user, project, personal, singles, named, hlists, hu, hp, hl, hsingles, hn, rfl⟩ :=
    layers_eq_ok_iff.1 h
  have hfile : ∀ {content : Option Bytes} (es : Layer), fileLayer content = some es →
      ∀ e ∈ es, e.2.Ordered := fun _ h => (fileLayer_ordered h).entries
  have hordered : ∀ e ∈ lists, e.2.Ordered := by
    obtain ⟨overrides, hoverrides, hlists⟩ := Except.bind_eq_ok.1 hlists
    split at hlists
    · cases hlists
      exact (Variables.lists_ordered _
        (Variables.overrides_ordered (Except.mapError_eq_ok.1 hoverrides))).tableEntries.entries
    · cases hlists
  refine ⟨_, rfl, ?_⟩
  simp only [List.forall_mem_cons]
  refine ⟨taken_ordered hu hfile, taken_ordered hp hfile, taken_ordered hl hfile,
    taken_ordered hsingles ?_, hordered, taken_ordered hn ?_, by simp⟩
  · rintro es ⟨⟩ e he
    exact Variables.scalars_ordered _ _ _ he
  · exact fun es hes => (explicitLayer_ordered hes).entries

theorem foldl_mergeOver_isOrderedTable {ls : List Layer} {t : Tree}
    (h : ∀ layer ∈ ls, ∀ e ∈ layer, e.2.Ordered) (ht : t.IsOrderedTable) :
    (ls.foldl Layer.mergeOver t).IsOrderedTable := by
  induction ls generalizing t with
  | nil => exact ht
  | cons layer ls ih =>
    obtain ⟨hlayer, hls⟩ := List.forall_mem_cons.1 h
    rw [List.foldl_cons]
    exact ih hls (Layer.mergeOver_isOrderedTable layer hlayer ht)

/-- All layers are merged to an ordered table. -/
theorem merged_isOrderedTable {upper : List Layer} (h : ∀ layer ∈ upper, ∀ e ∈ layer, e.2.Ordered) :
    (merged (({} : Settings).toTree.entries :: upper)).IsOrderedTable := by
  rw [merged, List.foldl_cons, mergeOver_defaults]
  exact foldl_mergeOver_isOrderedTable h ⟨defaults_ordered, _, rfl⟩

/-! ### Under the file that is named -/

/-- What the layers under the file that is named on purpose are merged to. -/
def base (s : Stack) : Except LoadError Tree := do
  return merged (← { s with explicit := none }.layers)

theorem base_isOrderedTable {s : Stack} {t : Tree} (h : s.base = .ok t) : t.IsOrderedTable := by
  obtain ⟨ls, hls, h⟩ := Except.bind_eq_ok.1 h
  cases h
  obtain ⟨upper, rfl, hupper⟩ := exists_layers_upper hls
  exact merged_isOrderedTable hupper

/-- The file goes over that tree. -/
theorem load_of_base {s : Stack} {t : Tree} {named : Layer} (h : s.base = .ok t)
    (hnamed : s.namedLayer = .ok named) : s.load = settings (Layer.mergeOver t named) := by
  obtain ⟨ls, hls, h⟩ := Except.bind_eq_ok.1 h
  cases h
  obtain ⟨lists, user, project, personal, singles, named', hlists, hu, hp, hl, hsingles, hn, rfl⟩ :=
    layers_eq_ok_iff.1 hls
  obtain ⟨es, hes, -, rfl⟩ := taken_eq_ok_iff.1 hn
  cases hes
  have hlayers : s.layers =
      .ok [({} : Settings).toTree.entries, user, project, personal, singles, lists, named] :=
    layers_eq_ok_iff.2 ⟨lists, user, project, personal, singles, named, hlists, hu, hp, hl, hsingles,
      hnamed, rfl⟩
  rw [load, hlayers, arrange_nil]
  rfl

/-- Without such a file, settings are taken from that tree. -/
theorem load_eq_base {s : Stack} (h : s.explicit = none) : s.load = s.base >>= settings := by
  have hs : { s with explicit := none } = s := by rw [← h]
  rw [load, base, hs, bind_assoc]
  rfl

end Stack

end AccessPolicy
