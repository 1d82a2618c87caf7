/-
Environment variables as one layer of settings.

Variables are taken in by two ways, lists by their paths and single values by
their keys, and both in orders of their own. Variables that say something of the
shape of settings (`WellShaped`) could as well be merged one after the other:
`at?_layers` says that both ways together have at each leaf what the last
variable of that path says, and `isSome_at?_layers` that they lead wherever some
variable does, whatever the orders.
-/
import AccessPolicy.Layers.Stack
import AccessPolicy.Proofs.Overlay
import AccessPolicy.Proofs.PartedPaths
import AccessPolicy.Proofs.Schema
import AccessPolicy.Proofs.VariableKeys

namespace AccessPolicy

/-! ## Layers whose keys are paths -/

namespace Layer

/-- What an entry of a layer says: a tree with a single branch. -/
def branch (e : String × Tree) : Tree := .branch (Text.splitAt '.' e.1) e.2

theorem mergeOver_eq_overlay : ∀ {l : Layer} {t : Tree},
    (∀ e ∈ l, ∀ name ∈ Text.splitAt '.' e.1, KeyPath.isPlain name = true) →
    mergeOver t l = Shape.overlay t (l.map branch)
  | [], t, _ => rfl
  | e :: l, t, h => by
    obtain ⟨he, hl⟩ := List.forall_mem_cons.1 h
    show mergeOver ((KeyPath.ofText e.1).set e.2 t) l =
      Shape.overlay (t.merge (branch e)) (l.map branch)
    rw [KeyPath.set_ofText he, mergeOver_eq_overlay hl]
    rfl

theorem settings_key {es : List (String × Tree)} (h : Shape.settings.admits (.table es) = true)
    {e : String × Tree} (he : e ∈ es) : e.1 = "locked" ∨ e.1 = "logging" ∨ e.1 = "policies" := by
  obtain ⟨s, hs, -⟩ := (Shape.admits_table_iff.1 h).2.1 e he
  have hmem := NameMap.mem_of_find hs
  simp only [List.mem_cons, Prod.mk.injEq, List.not_mem_nil, or_false] at hmem
  exact hmem.imp And.left fun h => h.imp And.left And.left

/-- Entries under paths of plain names ask for no lists. -/
theorem fits_of_plain {l : Layer} (room : Nat)
    (h : ∀ e ∈ l, ∀ name ∈ Text.splitAt '.' e.1, KeyPath.isPlain name = true) : l.fits room = true :=
  List.all_eq_true.2 fun e he => KeyPath.fits_ofText (h e he) room

theorem isPlain_of_admits {es : Layer} (h : Shape.settings.admits (.table es) = true)
    {e : String × Tree} (he : e ∈ es) : KeyPath.isPlain e.1 = true := by
  rcases settings_key h he with hk | hk | hk <;> rw [hk] <;> decide

/-- A layer whose keys are plain names is merged as a whole. -/
theorem mergeOver_eq_merge_of_plain {es : Layer} (h : ∀ e ∈ es, KeyPath.isPlain e.1 = true)
    (old : List (String × Tree)) :
    mergeOver (.table old) es = (Tree.table old).merge (.table es) := by
  have hsplit : ∀ e ∈ es, Text.splitAt '.' e.1 = [e.1] := fun e he => KeyPath.splitAt_of_plain (h e he)
  have hplain : ∀ e ∈ es, ∀ name ∈ Text.splitAt '.' e.1, KeyPath.isPlain name = true := by
    intro e he
    rw [hsplit e he, List.forall_mem_singleton]
    exact h e he
  have hbranch : es.map branch = es.map fun e => .table [e] :=
    List.map_congr_left fun e he => by rw [branch, hsplit e he]; rfl
  rw [mergeOver_eq_overlay hplain, hbranch, Shape.overlay, List.foldl_map,
    Tree.foldl_merge_singletons, Tree.merge_table, Tree.entries_table]

/-- A layer of the shape of settings is merged as a whole. -/
theorem mergeOver_eq_merge {es : Layer} (h : Shape.settings.admits (.table es) = true)
    {t : Tree} (ht : Shape.settings.admits t = true) : mergeOver t es = t.merge (.table es) := by
  obtain ⟨old, rfl⟩ := Shape.exists_table rfl ht
  exact mergeOver_eq_merge_of_plain (fun _ he => isPlain_of_admits h he) old

/-- Layers of the shape of settings are merged as a pile of trees. -/
theorem foldl_mergeOver : ∀ {ls : List Layer} {x : Tree}, Shape.settings.admits x = true →
    x.Ordered → Shape.settings.AdmitsAll (ls.map .table) →
    ls.foldl mergeOver x = Shape.overlay x (ls.map .table)
  | [], x, _, _, _ => rfl
  | es :: ls, x, hx, ho, hls => by
    obtain ⟨⟨hes, hoes⟩, hls⟩ := List.forall_mem_cons.1 hls
    rw [List.foldl_cons, mergeOver_eq_merge hes hx]
    exact foldl_mergeOver (Shape.admits_merge (.inr hx) ho hes hoes) (ho.merge hoes) hls

end Layer

/-! ## What variables say -/

namespace Variables

/-- The value that a variable gives to its key. -/
def given (key value : String) : Tree :=
  if isListKey key then .texts (names value) else scalar value

/-- What the variables set, each its key, in their order. -/
def layer (marker : String) (environment : List Variable) : Layer :=
  environment.filterMap fun v => (key? marker v.1).map fun key => (key, given key v.2)

/-- What the variables say together: one after the other, a later one on top
of those before it. -/
def tree (marker : String) (environment : List Variable) : Tree :=
  Shape.overlay (.table []) ((layer marker environment).map Layer.branch)

/-- Each variable that counts names a path by plain names. -/
def Plain (marker : String) (environment : List Variable) : Prop :=
  ∀ e ∈ layer marker environment, ∀ name ∈ Text.splitAt '.' e.1, KeyPath.isPlain name = true

/-- No two names for one single value, which differ in nothing but upper and lower
case, are in use: single values are collected without an order, so the two would
leave open what they say. -/
def Single (marker : String) (environment : List Variable) : Prop :=
  ∀ v ∈ environment, ∀ w ∈ environment, (scalarKey? marker v.1).isSome = true →
    scalarKey? marker v.1 = scalarKey? marker w.1 → v.1 = w.1

instance (marker : String) (environment : List Variable) : Decidable (Plain marker environment) :=
  inferInstanceAs (Decidable (∀ e ∈ layer marker environment, ∀ name ∈ Text.splitAt '.' e.1, _))

instance (marker : String) (environment : List Variable) : Decidable (Single marker environment) :=
  inferInstanceAs (Decidable (∀ v ∈ environment, ∀ w ∈ environment, _))

/-- The variables say something of the shape of settings: each names a path by
plain names, gives it a value that belongs there, and has one name only. -/
structure WellShaped (marker : String) (environment : List Variable) : Prop where
  plain : Plain marker environment
  admits : ∀ e ∈ layer marker environment, Shape.settings.admits (Layer.branch e) = true
  single : Single marker environment

theorem scalar_cases (value : String) : (∃ b, scalar value = .bool b) ∨
    (∃ i, scalar value = .integer i) ∨ (∃ x, scalar value = .float x) ∨ scalar value = .text value := by
  rw [scalar]
  split
  · exact .inl ⟨_, rfl⟩
  · split
    · exact .inl ⟨_, rfl⟩
    · split
      · exact .inr (.inl ⟨_, rfl⟩)
      · split
        · exact .inr (.inr (.inl ⟨_, rfl⟩))
        · exact .inr (.inr (.inr rfl))

theorem scalar_entries (value : String) : (scalar value).entries = [] ∧ (scalar value).Ordered := by
  rcases scalar_cases value with ⟨b, h⟩ | ⟨i, h⟩ | ⟨x, h⟩ | h <;> rw [h]
  · exact ⟨rfl, .bool b⟩
  · exact ⟨rfl, .integer i⟩
  · exact ⟨rfl, .float x⟩
  · exact ⟨rfl, .text _⟩

/-- Variables give values without entries. -/
theorem given_entries (key value : String) :
    (given key value).entries = [] ∧ (given key value).Ordered := by
  rw [given]
  split
  · exact ⟨rfl, Tree.Ordered.texts _⟩
  · exact scalar_entries value

theorem exists_of_mem_layer {marker : String} {environment : List Variable} {e : String × Tree}
    (h : e ∈ layer marker environment) :
    ∃ v ∈ environment, key? marker v.1 = some e.1 ∧ e.2 = given e.1 v.2 := by
  obtain ⟨v, hv, he⟩ := List.mem_filterMap.1 h
  obtain ⟨key, hkey, rfl⟩ := Option.map_eq_some_iff.1 he
  exact ⟨v, hv, hkey, rfl⟩

variable {marker : String} {environment : List Variable}

theorem layer_entries {e : String × Tree} (h : e ∈ layer marker environment) :
    e.2.entries = [] ∧ e.2.Ordered := by
  obtain ⟨v, -, -, hgiven⟩ := exists_of_mem_layer h
  rw [hgiven]
  exact given_entries _ _

/-- Branches at which a layer of the shape of settings may be merged in. -/
theorem WellShaped.admitsAll (h : WellShaped marker environment) {l : Layer}
    (hl : ∀ e ∈ l, e ∈ layer marker environment) : Shape.settings.AdmitsAll (l.map Layer.branch) := by
  intro t ht
  obtain ⟨e, he, rfl⟩ := List.mem_map.1 ht
  exact ⟨h.admits e (hl e he), .branch _ (layer_entries (hl e he)).2⟩

/-! ## The lists -/

/-- The lists that variables set, in their order. -/
def listed (marker : String) (environment : List Variable) : Layer :=
  (layer marker environment).filter fun e => isListKey e.1

theorem listed_subset : ∀ e ∈ listed marker environment, e ∈ layer marker environment :=
  fun _ he => (List.mem_filter.1 he).1

theorem listShare_eq_listed (marker : String) (environment : List Variable) :
    (listShare marker environment).map (fun e => (e.1, Tree.texts (names e.2.2))) =
      listed marker environment := by
  rw [listShare, listed, layer, List.map_filterMap, List.filter_filterMap]
  refine List.filterMap_congr fun v _ => ?_
  rw [listKey?]
  cases key? marker v.1 with
  | none => rfl
  | some key => cases hlist : isListKey key <;> simp [Option.filter_some, given, hlist]

/-- The lists that the variables set are taken in, if their keys are paths. -/
theorem overrides_eq_listed (h : environment.find? (isAstray marker) = none) :
    overrides marker environment = .ok (listed marker environment) := by
  rw [overrides_eq, h, listShare_eq_listed]

theorem Plain.find?_isAstray (h : Plain marker environment) :
    environment.find? (isAstray marker) = none := by
  refine List.find?_eq_none.2 fun v hv hastray => ?_
  rw [isAstray] at hastray
  split at hastray
  · cases hastray
  · rename_i key hkey
    have hmem : (key, given key v.2) ∈ layer marker environment :=
      List.mem_filterMap.2 ⟨v, hv, by rw [(Option.filter_eq_some_iff.1 hkey).1]; rfl⟩
    obtain ⟨root, parts, -, hparse⟩ := KeyPath.parse?_of_plain (h _ hmem)
    rw [hparse] at hastray
    cases hastray

theorem mem_of_mem_inOrder {order : List KeyPath} {l : Layer} {e : String × Tree}
    (h : e ∈ inOrder order l) : e ∈ l :=
  mem_of_mem_lastOfEach (mem_arrange.1 h)

/-- The lists that the variables set are merged one after the other. -/
theorem lists_eq_overlay (order : List KeyPath) {l : Layer}
    (h : ∀ e ∈ l, ∀ name ∈ Text.splitAt '.' e.1, KeyPath.isPlain name = true) :
    lists order l = Shape.overlay (.table []) ((inOrder order l).map Layer.branch) :=
  Layer.mergeOver_eq_overlay fun e he => h e (mem_of_mem_inOrder he)

theorem last?_lastOfEach (key : String) : ∀ {l : Layer},
    (∀ e ∈ l, ∀ e' ∈ l, Layer.pathOf e = Layer.pathOf e' → e.1 = e'.1) →
    NameMap.last? key (lastOfEach Layer.pathOf l) = NameMap.last? key l
  | [], _ => rfl
  | e :: l, h => by
    have ih := last?_lastOfEach key (l := l) fun e' he' e'' he'' =>
      h e' (List.mem_cons_of_mem e he') e'' (List.mem_cons_of_mem e he'')
    rw [lastOfEach, NameMap.last?_cons]
    split
    · rename_i hany
      obtain ⟨e', he', hpath⟩ := List.any_eq_true.1 hany
      rw [ih]
      by_cases hkey : e.1 = key
      · have hsame : e'.1 = key :=
          (h e' (List.mem_cons_of_mem e he') e List.mem_cons_self (by simpa using hpath)).trans hkey
        have hsome : NameMap.last? key l ≠ none := fun hnone =>
          NameMap.last?_eq_none_iff.1 hnone e' he' hsame
        obtain ⟨v, hv⟩ := Option.ne_none_iff_exists'.1 hsome
        rw [hv, Option.some_or]
      · rw [if_neg hkey, Option.or_none]
    · rw [NameMap.last?_cons, ih]

/-- Of the lists for a key the last one counts, in whatever order they come. -/
theorem last?_inOrder (order : List KeyPath) {l : Layer}
    (h : ∀ e ∈ l, ∀ name ∈ Text.splitAt '.' e.1, KeyPath.isPlain name = true) (key : String) :
    NameMap.last? key (inOrder order l) = NameMap.last? key l := by
  have hkeys : ((lastOfEach Layer.pathOf l).map (·.1)).Nodup :=
    List.Nodup.of_map KeyPath.ofText (by rw [List.map_map]; exact lastOfEach_nodup l)
  rw [inOrder, NameMap.last?_perm (perm_arrange _ order _) (((perm_arrange _ order _).map _).nodup_iff.2 hkeys),
    last?_lastOfEach]
  exact fun e he e' he' => KeyPath.ofText_injective (h e he) (h e' he')

/-! ## The single values -/

/-- The single values that variables set, in their order. -/
def singles (marker : String) (environment : List Variable) : Layer :=
  environment.filterMap fun v => (scalarKey? marker v.1).map fun key => (key, scalar v.2)

theorem singles_eq_filter : singles marker environment =
    (layer marker environment).filter fun e => !isListKey e.1 := by
  induction environment with
  | nil => rfl
  | cons v vs ih =>
    simp only [singles, layer] at ih
    simp only [singles, layer, List.filterMap_cons]
    cases hkey : key? marker v.1 with
    | none => simpa [scalarKey?, hkey] using ih
    | some key =>
      cases hlist : isListKey key with
      | true => simpa [scalarKey?, hkey, Option.filter_some, hlist] using ih
      | false => simpa [scalarKey?, hkey, Option.filter_some, hlist, given] using ih

/-- If only variables of one name set a key, the last of that name counts. -/
theorem last?_singles {key name : String} (hname : scalarKey? marker name = some key) :
    ∀ vs : List Variable, (∀ v ∈ vs, scalarKey? marker v.1 = some key → v.1 = name) →
      NameMap.last? key (singles marker vs) = (NameMap.last? name vs).map scalar
  | [], _ => rfl
  | v :: vs, h => by
    obtain ⟨hv, hvs⟩ := List.forall_mem_cons.1 h
    have ih := last?_singles hname vs hvs
    simp only [singles] at ih
    rw [NameMap.last?_cons, singles, List.filterMap_cons]
    by_cases heq : v.1 = name
    · rw [heq, hname, Option.map_some]
      simp only
      rw [NameMap.last?_cons, ih]
      cases NameMap.last? name vs <;> simp
    · cases hkey : scalarKey? marker v.1 with
      | none => simp [ih, heq]
      | some key' =>
        have hne : key' ≠ key := by
          rintro rfl
          exact heq (hv hkey)
        simp only [Option.map_some, NameMap.last?_cons, ih, hne, heq, if_false, Option.or_none]

/-- Of the single values for a key, the last one counts. -/
theorem get?_scalars (h : Single marker environment) (order : List String) (key : String) :
    (scalars order marker environment).get? key =
      NameMap.last? key (singles marker environment) := by
  generalize hvs : arrange (·.1) order (NameMap.ofList environment).toList = vs
  have hperm : vs.Perm (NameMap.ofList environment).toList := hvs ▸ perm_arrange _ order _
  have hfrom : ∀ v ∈ vs, ∃ w ∈ environment, w.1 = v.1 := by
    rintro ⟨k, x⟩ hv
    have hget : (NameMap.ofList environment).get? k = some x :=
      NameMap.get?_eq_some.2 (hperm.mem_iff.1 hv)
    have hmem : k ∈ (NameMap.ofList environment).keys := by
      rw [NameMap.mem_keys, NameMap.contains, hget]
      rfl
    exact NameMap.mem_keys_ofList.1 hmem
  rw [scalars_eq, NameMap.get?_ofList, hvs]
  show NameMap.last? key (singles marker vs) = _
  by_cases hset : ∃ v ∈ environment, scalarKey? marker v.1 = some key
  · obtain ⟨v, hv, hkey⟩ := hset
    have hone : ∀ w ∈ environment, scalarKey? marker w.1 = some key → w.1 = v.1 := fun w hw hwkey =>
      h w hw v hv (by rw [hwkey]; rfl) (by rw [hkey, hwkey])
    have hone' : ∀ w ∈ vs, scalarKey? marker w.1 = some key → w.1 = v.1 := by
      intro w hw hwkey
      obtain ⟨u, hu, huw⟩ := hfrom w hw
      rw [← huw] at hwkey ⊢
      exact hone u hu hwkey
    have hnodup : ((NameMap.ofList environment).toList.map (·.1)).Nodup := NameMap.nodup_keys _
    rw [last?_singles hkey _ hone, last?_singles hkey _ hone',
      NameMap.last?_perm hperm ((hperm.map _).nodup_iff.2 hnodup), NameMap.last?_toList,
      NameMap.get?_ofList]
  · have hnone : ∀ vs : List Variable, (∀ v ∈ vs, scalarKey? marker v.1 ≠ some key) →
        NameMap.last? key (singles marker vs) = none := by
      intro vs hvs
      rw [NameMap.last?_eq_none_iff]
      intro e he
      obtain ⟨v, hv, he⟩ := List.mem_filterMap.1 he
      obtain ⟨key', hkey', rfl⟩ := Option.map_eq_some_iff.1 he
      rintro rfl
      exact hvs v hv hkey'
    rw [hnone environment fun v hv hkey => hset ⟨v, hv, hkey⟩, hnone]
    intro v hv hkey
    obtain ⟨w, hw, hwv⟩ := hfrom v hv
    exact hset ⟨w, hw, hwv ▸ hkey⟩

/-! ## Both together -/

/-- Entries of which each says something of the shape of settings. -/
def Fits (l : Layer) : Prop := ∀ e ∈ l, e.2.entries = [] ∧ Shape.settings.admits (Layer.branch e) = true

variable {path : List String}

theorem at?_branch_of_leaf (hp : Shape.settings.IsLeaf path) {e : String × Tree}
    (he : e.2.entries = []) (hadmits : Shape.settings.admits (Layer.branch e) = true) :
    (Layer.branch e).at? path = if Text.splitAt '.' e.1 = path then some e.2 else none := by
  have hat : (Layer.branch e).at? path = _ := Tree.at?_branch (Text.splitAt '.' e.1) path he
  by_cases heq : Text.splitAt '.' e.1 = path
  · rw [hat, heq, if_pos (List.prefix_refl path), if_pos rfl, List.drop_length]
    rfl
  · rw [if_neg heq, hat, if_neg]
    intro hpre
    -- a longer branch would have a table at the leaf
    obtain ⟨rest, hrest⟩ := hpre
    rw [if_pos ⟨rest, hrest⟩, ← hrest, List.drop_left] at hat
    cases rest with
    | nil => exact heq (by rw [← hrest, List.append_nil])
    | cons k ks => exact hp.ne_table hadmits hat _ rfl

/-- What branches have at a leaf is what the last entry for it says. -/
theorem findSome?_branches (hp : Shape.settings.IsLeaf path) {key : String}
    (hkey : Text.splitAt '.' key = path) : ∀ {l : Layer}, Fits l →
    (l.map Layer.branch).reverse.findSome? (Tree.at? path) = NameMap.last? key l
  | [], _ => rfl
  | e :: l, hl => by
    obtain ⟨⟨he, hadmits⟩, hl⟩ := List.forall_mem_cons.1 hl
    have hiff : Text.splitAt '.' e.1 = path ↔ e.1 = key :=
      ⟨fun h => Text.splitAt_injective (h.trans hkey.symm), fun h => by rw [h, hkey]⟩
    rw [List.map_cons, List.reverse_cons, List.findSome?_append, findSome?_branches hp hkey hl,
      NameMap.last?_cons, List.findSome?_singleton, at?_branch_of_leaf hp he hadmits]
    simp only [hiff]

theorem findSome?_branches_eq_none (hp : Shape.settings.IsLeaf path)
    (hkey : ∀ key, Text.splitAt '.' key ≠ path) {l : Layer} (hl : Fits l) :
    (l.map Layer.branch).reverse.findSome? (Tree.at? path) = none := by
  rw [List.findSome?_eq_none_iff]
  intro t ht
  obtain ⟨e, he, rfl⟩ := List.mem_map.1 (List.mem_reverse.1 ht)
  rw [at?_branch_of_leaf hp (hl e he).1 (hl e he).2, if_neg (hkey e.1)]

theorem scalars_subset (order : List String) :
    ∀ e ∈ (scalars order marker environment).toList, e ∈ layer marker environment := by
  intro e he
  rw [scalars_eq] at he
  obtain ⟨v, hv, hve⟩ := List.mem_filterMap.1 (NameMap.mem_of_mem_ofList he)
  have hmem : e ∈ singles marker environment :=
    List.mem_filterMap.2 ⟨v, NameMap.mem_of_mem_ofList (mem_arrange.1 hv), hve⟩
  rw [singles_eq_filter] at hmem
  exact (List.mem_filter.1 hmem).1

theorem inOrder_subset (order : List KeyPath) :
    ∀ e ∈ inOrder order (listed marker environment), e ∈ layer marker environment :=
  fun e he => listed_subset e (mem_of_mem_inOrder he)

theorem WellShaped.fits (h : WellShaped marker environment) {l : Layer}
    (hl : ∀ e ∈ l, e ∈ layer marker environment) : Fits l := fun e he =>
  ⟨(layer_entries (hl e he)).1, h.admits e (hl e he)⟩

section

variable {x : Tree} {names : List String} {l : Layer}
  (hl : l.Perm (scalars names marker environment).toList)

include hl

theorem mem_layer_of_perm : ∀ e ∈ l, e ∈ layer marker environment :=
  fun e he => scalars_subset _ e (hl.mem_iff.1 he)

/-- Both ways of merging variables in are piles of branches. -/
theorem mergeOver_layers (h : WellShaped marker environment) (hx : Shape.settings.admits x = true)
    (ho : x.Ordered) (order : List KeyPath) :
    let ls := lists order (listed marker environment)
    Layer.mergeOver (Layer.mergeOver x l) ls.entries =
      (Shape.overlay x (l.map Layer.branch)).merge ls ∧
    ls = Shape.overlay (.table []) ((inOrder order (listed marker environment)).map Layer.branch) ∧
    Shape.settings.admits ls = true ∧ ls.Ordered := by
  have hls := lists_eq_overlay order fun e he => h.plain e (listed_subset e he)
  obtain ⟨hadmits, hordered⟩ := Shape.overlay_admits (x := .table []) (s := .settings) (by decide)
    .empty (h.admitsAll (inOrder_subset order))
  obtain ⟨hy, -⟩ := Shape.overlay_admits hx ho (h.admitsAll (mem_layer_of_perm hl))
  rw [← hls] at hadmits hordered
  refine ⟨?_, hls, hadmits, hordered⟩
  obtain ⟨es, hes⟩ := Shape.exists_table rfl hadmits
  rw [hes] at hadmits ⊢
  rw [Layer.mergeOver_eq_overlay fun e he => h.plain e (mem_layer_of_perm hl e he)]
  exact Layer.mergeOver_eq_merge hadmits hy

theorem layers_admits (h : WellShaped marker environment) (hx : Shape.settings.admits x = true)
    (ho : x.Ordered) (order : List KeyPath) :
    Shape.settings.admits (Layer.mergeOver (Layer.mergeOver x l)
      (lists order (listed marker environment)).entries) = true ∧
    (Layer.mergeOver (Layer.mergeOver x l)
      (lists order (listed marker environment)).entries).Ordered := by
  obtain ⟨hmerge, -, hadmits, hordered⟩ := mergeOver_layers hl h hx ho order
  obtain ⟨hy, hoy⟩ := Shape.overlay_admits hx ho (h.admitsAll (mem_layer_of_perm hl))
  rw [hmerge]
  exact ⟨Shape.admits_merge (.inr hy) hoy hadmits hordered, hoy.merge hordered⟩

omit hl

theorem admits_nil : Shape.settings.admits (.table []) = true := by decide

theorem at?_nil_of_leaf (hp : Shape.settings.IsLeaf path) : (Tree.table []).at? path = none := by
  cases path with
  | nil =>
    obtain ⟨s, hs, hleaf⟩ := hp
    cases hs
    cases hleaf
  | cons k ks => rfl

/-- What a pile of branches has at a leaf is what the last entry for it says. -/
theorem at?_overlay_branches (h : WellShaped marker environment) (hp : Shape.settings.IsLeaf path)
    (hx : Shape.settings.admits x = true) (ho : x.Ordered) {l : Layer}
    (hl : ∀ e ∈ l, e ∈ layer marker environment) {key : String} (hkey : Text.splitAt '.' key = path) :
    (Shape.overlay x (l.map Layer.branch)).at? path = (NameMap.last? key l).or (x.at? path) := by
  rw [Shape.at?_overlay hp hx ho (h.admitsAll hl), findSome?_branches hp hkey (h.fits hl)]

theorem at?_overlay_branches_of_ne (h : WellShaped marker environment)
    (hp : Shape.settings.IsLeaf path) (hx : Shape.settings.admits x = true) (ho : x.Ordered)
    {l : Layer} (hl : ∀ e ∈ l, e ∈ layer marker environment)
    (hkey : ∀ key, Text.splitAt '.' key ≠ path) :
    (Shape.overlay x (l.map Layer.branch)).at? path = x.at? path := by
  rw [Shape.at?_overlay hp hx ho (h.admitsAll hl), findSome?_branches_eq_none hp hkey (h.fits hl),
    Option.none_or]

/-- **What variables say at a leaf.** The last variable of that path counts. -/
theorem at?_tree (h : WellShaped marker environment) (hp : Shape.settings.IsLeaf path) {key : String}
    (hkey : Text.splitAt '.' key = path) :
    (tree marker environment).at? path = NameMap.last? key (layer marker environment) := by
  rw [tree, at?_overlay_branches h hp admits_nil .empty (fun e he => he) hkey,
    at?_nil_of_leaf hp, Option.or_none]

include hl in
/-- **Variables are one layer, at the leaves.** -/
theorem at?_layers (h : WellShaped marker environment) (hp : Shape.settings.IsLeaf path)
    (hx : Shape.settings.admits x = true) (ho : x.Ordered) (order : List KeyPath) :
    (Layer.mergeOver (Layer.mergeOver x l) (lists order (listed marker environment)).entries).at?
        path = ((tree marker environment).at? path).or (x.at? path) := by
  obtain ⟨hmerge, hoverlay, hadmits, hordered⟩ := mergeOver_layers hl h hx ho order
  obtain ⟨hy, -⟩ := Shape.overlay_admits hx ho (h.admitsAll (mem_layer_of_perm hl))
  have hplain := fun e he => h.plain e (listed_subset e he)
  have hnodup : (l.map (·.1)).Nodup :=
    (hl.map _).nodup_iff.2 (NameMap.nodup_keys (scalars names marker environment))
  rw [hmerge, Shape.at?_merge_leaf hp (.inr hy) hadmits hordered, hoverlay]
  by_cases hkey : ∃ key, Text.splitAt '.' key = path
  · obtain ⟨key, hkey⟩ := hkey
    rw [at?_overlay_branches h hp admits_nil .empty (inOrder_subset order) hkey, at?_nil_of_leaf hp,
      at?_overlay_branches h hp hx ho (mem_layer_of_perm hl) hkey, at?_tree h hp hkey,
      last?_inOrder order hplain, NameMap.last?_perm hl hnodup, NameMap.last?_toList,
      get?_scalars h.single, singles_eq_filter, listed, NameMap.last?_filter,
      NameMap.last?_filter (p := fun k => !isListKey k)]
    cases isListKey key <;> simp
  · have hkey' : ∀ key, Text.splitAt '.' key ≠ path := fun key hk => hkey ⟨key, hk⟩
    rw [at?_overlay_branches_of_ne h hp admits_nil .empty (inOrder_subset order) hkey',
      at?_overlay_branches_of_ne h hp hx ho (mem_layer_of_perm hl) hkey', tree,
      at?_overlay_branches_of_ne h hp admits_nil .empty (fun e he => he) hkey', at?_nil_of_leaf hp]

theorem isSome_at?_branch {e : String × Tree} (he : e.2.entries = []) :
    ((Layer.branch e).at? path).isSome = true ↔ path <+: Text.splitAt '.' e.1 := by
  rw [Layer.branch, Tree.at?_branch _ _ he]
  by_cases hpre : path <+: Text.splitAt '.' e.1 <;> simp [hpre]

/-- Some branch of a pile leads to a path exactly if some key does. -/
theorem exists_branch_iff {l : Layer} (hl : ∀ e ∈ l, e ∈ layer marker environment) :
    (∃ t ∈ l.map Layer.branch, (t.at? path).isSome = true) ↔
      ∃ e ∈ l, path <+: Text.splitAt '.' e.1 := by
  have hbranch : ∀ e ∈ l, ((Layer.branch e).at? path).isSome = true ↔ path <+: Text.splitAt '.' e.1 :=
    fun e he => isSome_at?_branch (layer_entries (hl e he)).1
  constructor
  · rintro ⟨t, ht, hat⟩
    obtain ⟨e, he, rfl⟩ := List.mem_map.1 ht
    exact ⟨e, he, (hbranch e he).1 hat⟩
  · rintro ⟨e, he, hpre⟩
    exact ⟨_, List.mem_map_of_mem he, (hbranch e he).2 hpre⟩

include hl in
/-- Lists and single values together set what the variables set. -/
theorem exists_key_iff (h : WellShaped marker environment) (order : List KeyPath)
    (P : String → Prop) :
    ((∃ e ∈ inOrder order (listed marker environment), P e.1) ∨ ∃ e ∈ l, P e.1) ↔
      ∃ e ∈ layer marker environment, P e.1 := by
  have hplain := fun e he => h.plain e (listed_subset e he)
  constructor
  · rintro (⟨e, he, hP⟩ | ⟨e, he, hP⟩)
    · exact ⟨e, inOrder_subset _ e he, hP⟩
    · exact ⟨e, mem_layer_of_perm hl e he, hP⟩
  · rintro ⟨e, he, hP⟩
    cases hlist : isListKey e.1 with
    | true =>
      have hlisted : e ∈ listed marker environment := List.mem_filter.2 ⟨he, hlist⟩
      have hsome : ∃ e' ∈ inOrder order (listed marker environment), e'.1 = e.1 := by
        by_contra hnone
        have hlast : NameMap.last? e.1 (listed marker environment) = none := by
          rw [← last?_inOrder order hplain, NameMap.last?_eq_none_iff]
          exact fun e' he' heq => hnone ⟨e', he', heq⟩
        exact NameMap.last?_eq_none_iff.1 hlast e hlisted rfl
      obtain ⟨e', he', heq⟩ := hsome
      exact .inl ⟨e', he', heq ▸ hP⟩
    | false =>
      have hsingle : e ∈ singles marker environment := by
        rw [singles_eq_filter]
        exact List.mem_filter.2 ⟨he, by simp [hlist]⟩
      have hsome : (scalars names marker environment).get? e.1 ≠ none := by
        rw [get?_scalars h.single, Ne, NameMap.last?_eq_none_iff]
        exact fun hnone => hnone e hsingle rfl
      obtain ⟨t, ht⟩ := Option.ne_none_iff_exists'.1 hsome
      exact .inr ⟨(e.1, t), hl.mem_iff.2 (NameMap.get?_eq_some.1 ht), hP⟩

include hl in
/-- **Variables are one layer, at all paths.** -/
theorem isSome_at?_layers (path : List String) (h : WellShaped marker environment)
    (hx : Shape.settings.admits x = true) (ho : x.Ordered) (order : List KeyPath) :
    ((Layer.mergeOver (Layer.mergeOver x l)
        (lists order (listed marker environment)).entries).at? path).isSome = true ↔
      ((tree marker environment).at? path).isSome = true ∨ (x.at? path).isSome = true := by
  obtain ⟨hmerge, hoverlay, hadmits, hordered⟩ := mergeOver_layers hl h hx ho order
  obtain ⟨hy, hoy⟩ := Shape.overlay_admits hx ho (h.admitsAll (mem_layer_of_perm hl))
  rw [hmerge, Shape.isSome_at?_merge (.inr hy) hadmits hordered, Bool.or_eq_true, hoverlay,
    Shape.isSome_at?_overlay admits_nil .empty (h.admitsAll (inOrder_subset order)),
    Shape.isSome_at?_overlay hx ho (h.admitsAll (mem_layer_of_perm hl)), tree,
    Shape.isSome_at?_overlay admits_nil .empty (h.admitsAll fun e he => he),
    exists_branch_iff (inOrder_subset order), exists_branch_iff (mem_layer_of_perm hl),
    exists_branch_iff fun e he => he, ← exists_key_iff hl h order fun k => path <+: Text.splitAt '.' k]
  exact or_or_or_comm.trans or_assoc.symm

end

end Variables

end AccessPolicy
