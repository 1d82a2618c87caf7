/-
A variable that sets a single value adds one branch to what is merged of the
other layers (`Stack.load_eq_merge_branch`).

Single values are taken in by the order of their keys, and the lists of the
variables go over all of them, so the branch is not merged in last. It may be
moved there if the other variables turn off its way somewhere
(`KeyPath.Forks`). Of the files nothing is assumed: what stands in the way of
the branch there makes place for it in any case.
-/
import AccessPolicy.Proofs.ListVariables

namespace AccessPolicy

/-! ## One entry more -/

namespace NameMap

variable {α : Type} {k : String}

/-- An entry under a new key stands somewhere among the others. -/
theorem place_middle (v : α) : ∀ {l : List (String × α)}, (∀ e ∈ l, e.1 ≠ k) →
    ∃ before after, l = before ++ after ∧ place k v l = before ++ (k, v) :: after
  | [], _ => ⟨[], [], rfl, rfl⟩
  | (k', v') :: l, h => by
    obtain ⟨hne, hl⟩ := List.forall_mem_cons.1 h
    by_cases hlt : k < k'
    · exact ⟨[], (k', v') :: l, rfl, by simp [place, hlt]⟩
    · obtain ⟨before, after, rfl, hplace⟩ := place_middle v hl
      exact ⟨(k', v') :: before, after, rfl, by simp [place, hlt, Ne.symm hne, hplace]⟩

/-- An entry under a key of its own may as well be collected last. -/
theorem ofList_middle (v : α) {l l' : List (String × α)} (h : ∀ e ∈ l ++ l', e.1 ≠ k) :
    ofList (l ++ (k, v) :: l') = (ofList (l ++ l')).insert k v := by
  refine NameMap.ext fun x => ?_
  rw [get?_insert, get?_ofList, get?_ofList, last?_append, last?_append, last?_cons]
  by_cases hx : x = k
  · have hnone : last? k l' = none := last?_eq_none_iff.2 fun e he => h e (List.mem_append_right _ he)
    rw [hx, hnone]
    simp
  · simp [hx, Ne.symm hx]

end NameMap

/-! ## Ways that fork -/

namespace KeyPath

/-- The steps and the names part: after names that they share they come to two
different ones. -/
def Forks : List PathStep → List String → Prop
  | .key name :: steps, k :: ks => name ≠ k ∨ Forks steps ks
  | _, _ => False

instance decidableForks : ∀ (steps : List PathStep) (ks : List String), Decidable (Forks steps ks)
  | .key name :: steps, k :: ks =>
    @instDecidableOr _ _ (inferInstanceAs (Decidable (name ≠ k))) (decidableForks steps ks)
  | .key _ :: _, [] => isFalse id
  | .index _ :: _, _ => isFalse id
  | [], _ => isFalse id

theorem not_forks_nil (steps : List PathStep) : ¬ Forks steps [] := by
  rintro h
  cases steps with
  | nil => exact h
  | cons step steps => cases step <;> exact h

theorem not_forks_self : ∀ ks : List String, ¬ Forks (ks.map .key) ks
  | [] => not_forks_nil _
  | _ :: ks => fun h => h.elim (fun hne => hne rfl) (not_forks_self ks)

theorem Forks.exists_key {steps : List PathStep} {ks : List String} (h : Forks steps ks) :
    ∃ name rest, steps = .key name :: rest := by
  cases steps with
  | nil => exact h.elim
  | cons step steps =>
    cases step with
    | key name => exact ⟨name, steps, rfl⟩
    | index i => exact h.elim

theorem Forks.of_cons {name : String} {steps : List PathStep} {ks : List String}
    (h : Forks (.key name :: steps) (name :: ks)) : Forks steps ks :=
  h.resolve_left fun hne => hne rfl

theorem Forks.parts : ∀ {steps : List PathStep} {ks : List String}, Forks steps ks →
    Parts steps (ks.map .key)
  | steps, [], h => absurd h (not_forks_nil steps)
  | .key _ :: _, _ :: _, h => h.imp_right Forks.parts

/-- A change and a branch that part may be made in any order. -/
theorem change_merge_branch (f : Tree → Tree) (v : Tree) {steps : List PathStep}
    {path : List String} (h : Forks steps path) (t : Tree) :
    change f steps (t.merge (.branch path v)) = (change f steps t).merge (.branch path v) := by
  simp only [← change_merge]
  exact change_comm f _ h.parts t

end KeyPath

theorem Layer.mergeOver_merge_branch {path : List String} (v : Tree) :
    ∀ {layer : Layer}, (∀ e ∈ layer, KeyPath.Forks (KeyPath.ofText e.1).all path) → ∀ t : Tree,
      mergeOver (t.merge (.branch path v)) layer = (mergeOver t layer).merge (.branch path v)
  | [], _, _ => rfl
  | e :: layer, h, t => by
    obtain ⟨he, hlayer⟩ := List.forall_mem_cons.1 h
    show mergeOver (KeyPath.change (fun old => old.merge e.2) (KeyPath.ofText e.1).all
      (t.merge (.branch path v))) layer = _
    rw [KeyPath.change_merge_branch _ v he, mergeOver_merge_branch v hlayer]
    rfl

/-! ## Trees that a way does not touch -/

namespace Tree

theorem exists_merge_branch {path : List String} (h : path ≠ []) (v t : Tree) :
    ∃ us, t.merge (branch path v) = .table us := by
  cases path with
  | nil => exact absurd rfl h
  | cons k ks => exact ⟨_, merge_branch_cons k ks v t⟩

/-- The way along the path leads through tables, and ends before its time. -/
def Misses : List String → List (String × Tree) → Prop
  | [], _ => False
  | k :: ks, es => ∀ u, NameMap.find k es = some u → ∃ us, u = .table us ∧ Misses ks us

theorem Misses.nil {path : List String} (h : path ≠ []) : Misses path [] := by
  cases path with
  | nil => exact absurd rfl h
  | cons k ks => exact fun u hu => by cases hu

theorem Misses.part {k : String} {ks : List String} {es : List (String × Tree)}
    (h : Misses (k :: ks) es) (hks : ks ≠ []) :
    Misses ks ((NameMap.find k es).getD .null).entries := by
  cases hu : NameMap.find k es with
  | none => exact Misses.nil hks
  | some u =>
    obtain ⟨us, rfl, hus⟩ := h u hu
    exact hus

/-- A change that parts from the way does not touch it. -/
theorem Misses.change {f : Tree → Tree} : ∀ {steps : List PathStep} {path : List String} {t : Tree},
    KeyPath.Forks steps path → Misses path t.entries → Misses path (KeyPath.change f steps t).entries
  | steps, [], _, h, _ => absurd h (KeyPath.not_forks_nil steps)
  | .key name :: steps, k :: ks, t, h, ht => by
    rw [KeyPath.change, entries_table]
    intro u hu
    rw [NameMap.find_place] at hu
    by_cases hk : k = name
    · subst hk
      have hks : ks ≠ [] := by
        rintro rfl
        exact KeyPath.not_forks_nil steps h.of_cons
      have hpart := Misses.change (f := f) h.of_cons (ht.part hks)
      obtain ⟨name, rest, rfl⟩ := h.of_cons.exists_key
      rw [if_pos rfl, KeyPath.change] at hu
      rw [KeyPath.change] at hpart
      exact ⟨_, (Option.some.inj hu).symm, hpart⟩
    · rw [if_neg hk] at hu
      exact ht u hu

/-- A tree that misses the way may go over a branch, or the branch over it. -/
theorem merge_branch_merge {v : Tree} (hv : v.Ordered) :
    ∀ {path : List String} {t : Tree} {es : List (String × Tree)}, Misses path es →
      Ordered (.table es) → t.Ordered →
      (t.merge (branch path v)).merge (.table es) = (t.merge (.table es)).merge (branch path v)
  | [], _, _, h, _, _ => h.elim
  | k :: ks, t, es, h, ho, hto => by
    have hbranch : Ordered (branch ks v) := .branch ks hv
    have hpart := (hto.tableEntries.part k).merge hbranch
    have hmerged := Ordered.mergeEntries hto.tableEntries es ho.entries
    have hleft := Ordered.mergeEntries (hto.tableEntries.place k hpart) es ho.entries
    have hright := hmerged.place k ((hmerged.part k).merge hbranch)
    rw [merge_branch_cons, merge_branch_cons, merge_table, merge_table, entries_table, entries_table]
    refine congrArg (fun m : NameMap Tree => Tree.table m.toList)
      (NameMap.ext (m := ⟨_, hleft.increasing⟩) (n := ⟨_, hright.increasing⟩) fun x => ?_)
    show NameMap.find x _ = NameMap.find x _
    rw [find_mergeEntries ho.increasing, NameMap.find_place, NameMap.find_place,
      find_mergeEntries ho.increasing, find_mergeEntries ho.increasing]
    by_cases hx : x = k
    · subst hx
      rw [if_pos rfl, if_pos rfl]
      cases hu : NameMap.find x es with
      | none => rfl
      | some u =>
        obtain ⟨us, rfl, hus⟩ := h u hu
        exact congrArg some (merge_branch_merge hv hus (ho.find hu) (hto.tableEntries.part x))
    · rw [if_neg hx, if_neg hx]

end Tree

/-! ## Variables -/

namespace Variables

variable {marker name key value : String} {path : List String} {before after : List Variable}

/-- The other variables turn off the way along the path somewhere: none leads to
its end, on from there, or to a part of the way. -/
def Aside (path : List String) (marker : String) (environment : List Variable) : Prop :=
  ∀ e ∈ layer marker environment, KeyPath.Forks (KeyPath.ofText e.1).all path

instance (path : List String) (marker : String) (environment : List Variable) :
    Decidable (Aside path marker environment) := List.decidableBAll _ _

theorem Aside.of_key? {environment : List Variable} (h : Aside path marker environment)
    {v : Variable} (hv : v ∈ environment) (hkey : key? marker v.1 = some key) :
    KeyPath.Forks (KeyPath.ofText key).all path :=
  h (key, given key v.2) (List.mem_filterMap.2 ⟨v, hv, by rw [hkey]; rfl⟩)

/-- The steps of a path of plain names. -/
theorem all_ofText (hplain : ∀ part ∈ Text.splitAt '.' key, KeyPath.isPlain part = true) :
    (KeyPath.ofText key).all = (Text.splitAt '.' key).map .key := by
  obtain ⟨root, parts, hsplit, hparse⟩ := KeyPath.parse?_of_plain hplain
  rw [KeyPath.ofText, hparse, hsplit]
  rfl

/-- The first name of a path is plain. -/
theorem isPlain_root {p : KeyPath} (h : KeyPath.parse? key = some p) : KeyPath.isPlain p.root = true := by
  obtain ⟨⟨root, rest⟩, hroot, h⟩ := Option.bind_eq_some_iff.1 h
  obtain ⟨steps, -, h⟩ := Option.bind_eq_some_iff.1 h
  cases h
  rw [KeyPath.key?] at hroot
  split at hroot
  · cases hroot
  · rename_i hne
    cases hroot
    refine KeyPath.isPlain_ofList.2 ⟨by simpa using hne, fun c hc => ?_⟩
    exact List.mem_takeWhile_imp hc

/-- A table that misses the way, with plain names for its entries. -/
def PlainlyMisses (path : List String) (t : Tree) : Prop :=
  ∃ es, t = .table es ∧ Tree.Misses path es ∧
    ∀ k, (NameMap.find k es).isSome = true → KeyPath.isPlain k = true

theorem plainlyMisses_mergeOver : ∀ {l : Layer} {t : Tree},
    (∀ e ∈ l, KeyPath.Forks (Layer.pathOf e).all path ∧ KeyPath.isPlain (Layer.pathOf e).root = true) →
    PlainlyMisses path t → PlainlyMisses path (Layer.mergeOver t l)
  | [], _, _, ht => ht
  | e :: l, _, h, ⟨es, rfl, hmisses, hkeys⟩ => by
    obtain ⟨⟨hforks, hplain⟩, hl⟩ := List.forall_mem_cons.1 h
    refine plainlyMisses_mergeOver (t := (Layer.pathOf e).set e.2 (.table es)) hl
      ⟨_, rfl, Tree.Misses.change (t := .table es) hforks hmisses, fun k hk => ?_⟩
    rcases (Layer.isSome_find_set (Layer.pathOf e) e.2 (.table es) k).1 hk with rfl | hk
    · exact hplain
    · exact hkeys k hk

/-- The lists of variables that turn off a way are a layer that misses it. -/
theorem lists_misses (hpath : path ≠ []) {environment : List Variable}
    (h : Aside path marker environment) {l : Layer} (hl : overrides marker environment = .ok l)
    (order : List KeyPath) : ∃ es, lists order l = .table es ∧ (Tree.table es).Ordered ∧
      Tree.Misses path es ∧ ∀ e ∈ es, KeyPath.isPlain e.1 = true := by
  have hempty : PlainlyMisses path (.table []) := ⟨[], rfl, .nil hpath, fun k hk => by cases hk⟩
  have hentries : ∀ e ∈ inOrder order l, KeyPath.Forks (Layer.pathOf e).all path ∧
      KeyPath.isPlain (Layer.pathOf e).root = true := by
    intro e he
    obtain ⟨v, hv, hkey, hparse, -⟩ := exists_of_mem_overrides hl (mem_of_mem_inOrder he)
    obtain ⟨p, hp⟩ := Option.isSome_iff_exists.1 hparse
    refine ⟨h.of_key? hv (Option.filter_eq_some_iff.1 hkey).1, ?_⟩
    rw [Layer.pathOf, KeyPath.ofText, hp]
    exact isPlain_root hp
  obtain ⟨es, hes, hmisses, hkeys⟩ := plainlyMisses_mergeOver hentries hempty
  have ho : (Tree.table es).Ordered := hes ▸ lists_ordered order (overrides_ordered hl)
  refine ⟨es, hes, ho, hmisses, fun e he => hkeys e.1 ?_⟩
  rw [(NameMap.find_eq_some ho.increasing).2 he]
  rfl

theorem listKey?_of_scalarKey? (h : scalarKey? marker name = some key) : listKey? marker name = none := by
  obtain ⟨hkey, hlist⟩ := Option.filter_eq_some_iff.1 h
  rw [listKey?, hkey, Option.filter_some, if_neg (by simpa using hlist)]

/-- A single value does not change the lists. -/
theorem overrides_middle (hnone : listKey? marker name = none) :
    overrides marker (before ++ (name, value) :: after) = overrides marker (before ++ after) := by
  have hfilter := @overrides_filter marker (fun n => (listKey? marker n).isSome)
    fun n hn => by simpa using hn
  rw [← hfilter (before ++ (name, value) :: after), ← hfilter (before ++ after)]
  simp [List.filter_append, hnone]

/-- Of the variables by name, one more stands somewhere among the others. -/
theorem singles_middle (order : List String) (value : String) (hkey : scalarKey? marker name = some key)
    (hnames : ∀ v ∈ before ++ after, v.1 ≠ name) :
    ∃ l l', singles marker (arrange (·.1) order (NameMap.ofList (before ++ after)).toList) = l ++ l' ∧
      singles marker (arrange (·.1) order (NameMap.ofList (before ++ (name, value) :: after)).toList) =
        l ++ (key, scalar value) :: l' := by
  obtain ⟨vs, vs', hvs, hplace⟩ := NameMap.place_middle (k := name) value
    (l := (NameMap.ofList (before ++ after)).toList) fun v hv =>
      hnames v (NameMap.mem_of_mem_ofList hv)
  obtain ⟨ws, ws', hwithout, hwith⟩ :=
    arrange_middle Prod.fst order ((name, value) : Variable) vs vs'
  refine ⟨singles marker ws, singles marker ws', ?_, ?_⟩
  · rw [hvs, hwithout]
    exact List.filterMap_append
  · rw [NameMap.ofList_middle _ hnames]
    show singles marker (arrange _ order
      (NameMap.place name value (NameMap.ofList (before ++ after)).toList)) = _
    rw [hplace, hwith]
    simp [singles, hkey]

/-- The single value of a variable stands somewhere among those of the others. -/
theorem scalars_cons_middle (order : List String) (value : String)
    (hkey : scalarKey? marker name = some key)
    (hothers : ∀ v ∈ before ++ after, key? marker v.1 ≠ some key) :
    ∃ l l', (scalars order marker (before ++ after)).toList = l ++ l' ∧
      (scalars order marker (before ++ (name, value) :: after)).toList =
        l ++ (key, scalar value) :: l' := by
  have hnames : ∀ v ∈ before ++ after, v.1 ≠ name := by
    rintro v hv rfl
    exact hothers v hv (Option.filter_eq_some_iff.1 hkey).1
  have hkeys : ∀ e ∈ singles marker (arrange (·.1) order (NameMap.ofList (before ++ after)).toList),
      e.1 ≠ key := by
    intro e he heq
    obtain ⟨v, hv, hve⟩ := List.mem_filterMap.1 he
    obtain ⟨key', hkey', rfl⟩ := Option.map_eq_some_iff.1 hve
    cases heq
    exact hothers v (NameMap.mem_of_mem_ofList (mem_arrange.1 hv)) (Option.filter_eq_some_iff.1 hkey').1
  obtain ⟨vs, vs', hwithout, hwith⟩ := singles_middle order value hkey hnames
  have hinsert : scalars order marker (before ++ (name, value) :: after) =
      (scalars order marker (before ++ after)).insert key (scalar value) := by
    rw [scalars_eq, scalars_eq]
    show NameMap.ofList (singles marker _) = (NameMap.ofList (singles marker _)).insert _ _
    rw [hwith, hwithout, NameMap.ofList_middle _ (by rwa [← hwithout])]
  obtain ⟨l, l', hl, hplace⟩ := NameMap.place_middle (k := key) (scalar value)
    (l := (scalars order marker (before ++ after)).toList) fun e he => by
      rw [scalars_eq] at he
      exact hkeys e (NameMap.mem_of_mem_ofList he)
  exact ⟨l, l', hl, by rw [hinsert]; exact hplace⟩

end Variables

/-! ## Loading -/

namespace Stack

open Variables

section

variable {s : Stack} {marker name key : String} {path : List String} {before after : List Variable}
  (hpath : Text.splitAt '.' key = path) (hplain : ∀ part ∈ path, KeyPath.isPlain part = true)

include hpath hplain

/-- The value of the variable is merged into what is there of the single values. -/
theorem singleLayer_middle (hkey : scalarKey? s.marker name = some key)
    (hothers : Aside path s.marker (before ++ after)) (value : String) :
    (∃ l l', singleLayer { s with environment := before ++ after } = .ok l ∧
      singleLayer { s with environment := before ++ (name, value) :: after } = .ok l' ∧
      ∀ t, Layer.mergeOver t l' = (Layer.mergeOver t l).merge (.branch path (scalar value))) ∨
    (∃ e e', singleLayer { s with environment := before ++ after } = .error e ∧
      singleLayer { s with environment := before ++ (name, value) :: after } = .error e') := by
  subst hpath
  have hkeys : ∀ v ∈ before ++ after, key? s.marker v.1 ≠ some key := by
    intro v hv hvkey
    have hforks := hothers.of_key? hv hvkey
    rw [all_ofText hplain] at hforks
    exact KeyPath.not_forks_self _ hforks
  obtain ⟨vs, vs', hwithout, hwith⟩ := scalars_cons_middle s.orders.names value hkey hkeys
  obtain ⟨l, l', harranged, harranged'⟩ :=
    arrange_middle Prod.fst s.orders.scalars (key, scalar value) vs vs'
  have hfits : Layer.fits s.room (vs ++ (key, scalar value) :: vs') = Layer.fits s.room (vs ++ vs') := by
    have hnew : (Layer.pathOf (key, scalar value)).fits s.room = true := KeyPath.fits_ofText hplain s.room
    simp [Layer.fits, hnew]
  simp only [singleLayer, Stack.singles, taken, hwithout, hwith, hfits, harranged, harranged']
  split
  · refine .inl ⟨l ++ l', _, rfl, rfl, fun t => ?_⟩
    have hforks : ∀ e ∈ l', KeyPath.Forks (KeyPath.ofText e.1).all (Text.splitAt '.' key) := by
      intro e he
      refine hothers e (scalars_subset s.orders.names e ?_)
      rw [hwithout, ← (perm_arrange Prod.fst s.orders.scalars _).mem_iff, harranged]
      exact List.mem_append_right _ he
    simp only [Layer.mergeOver, List.foldl_append, List.foldl_cons]
    rw [Layer.pathOf, KeyPath.set_ofText hplain]
    exact Layer.mergeOver_merge_branch _ hforks _
  · exact .inr ⟨_, _, rfl, rfl⟩

/-- **A single variable is a branch on top.** If the other variables turn off
its way, and no file is named on purpose, then the value of the variable is
merged into what settings are taken from without it. -/
theorem load_eq_merge_branch (hexplicit : s.explicit = none) (hkey : scalarKey? s.marker name = some key)
    (hothers : Aside path s.marker (before ++ after)) {lists user project personal singles : Layer}
    (hlists : listLayer { s with environment := before ++ after } = .ok lists)
    (huser : s.userLayer = .ok user) (hproject : s.projectLayer = .ok project)
    (hpersonal : s.personalLayer = .ok personal)
    (hsingles : singleLayer { s with environment := before ++ after } = .ok singles) :
    ∃ t : Tree, t.IsOrderedTable ∧ load { s with environment := before ++ after } = settings t ∧
      ∀ value, load { s with environment := before ++ (name, value) :: after } =
        settings (t.merge (.branch path (scalar value))) := by
  have hne : path ≠ [] := by
    obtain ⟨root, parts, hsplit, -⟩ := KeyPath.parse?_of_plain (hpath ▸ hplain)
    rw [← hpath, hsplit]
    exact List.cons_ne_nil root parts
  have hnamed : s.namedLayer = .ok [] := by
    rw [namedLayer, hexplicit]
    exact congrArg Except.ok (arrange_nil _)
  obtain ⟨overrides, hoverrides, hfits⟩ := Except.bind_eq_ok.1 hlists
  have hls : Variables.overrides s.marker (before ++ after) = .ok overrides :=
    Except.mapError_eq_ok.1 hoverrides
  split at hfits
  swap
  · cases hfits
  cases hfits
  obtain ⟨es, hes, ho, hmisses, hplainLists⟩ := lists_misses hne hothers hls s.orders.lists
  have hmergeLists : ∀ us, Layer.mergeOver (.table us) es = (Tree.table us).merge (.table es) :=
    Layer.mergeOver_eq_merge_of_plain hplainLists
  obtain ⟨hbelow, old, hold⟩ := isOrderedTable_below
    (s := { s with environment := before ++ after }) huser hproject hpersonal hsingles
  rw [hold] at hbelow
  refine ⟨(Tree.table old).merge (.table es), ⟨hbelow.merge ho, _, Tree.merge_table _ _⟩, ?_,
    fun value => ?_⟩
  · rw [load_eq (s := { s with environment := before ++ after }) hlists huser hproject hpersonal
      hsingles hnamed]
    show settings (Layer.mergeOver (below user project personal singles) _) = _
    rw [hold, hes, Tree.entries_table, hmergeLists]
  · obtain ⟨us, hus⟩ := Tree.exists_merge_branch hne (scalar value) (.table old)
    have hlists' : listLayer { s with environment := before ++ (name, value) :: after } =
        .ok (Variables.lists s.orders.lists overrides).entries := by
      rw [← hlists, listLayer, listLayer, overrides_middle (listKey?_of_scalarKey? hkey)]
    obtain ⟨l, l', hl, hl', hbranch⟩ | ⟨e, -, he, -⟩ :=
      singleLayer_middle hpath hplain hkey hothers value
    · cases hsingles.symm.trans hl
      -- the branch under the lists, and then over them
      rw [load_eq (s := { s with environment := before ++ (name, value) :: after }) hlists' huser
        hproject hpersonal hl' hnamed, hbranch]
      show settings (Layer.mergeOver ((below user project personal singles).merge _) _) = _
      rw [hold, hus, hes, Tree.entries_table, hmergeLists, ← hus,
        Tree.merge_branch_merge (scalar_entries value).2 hmisses ho hbelow]
    · cases hsingles.symm.trans he

/-- The same, if settings are loaded at all, with the variable or without it. -/
theorem exists_merge_branch_of_load (hexplicit : s.explicit = none)
    (hkey : scalarKey? s.marker name = some key) (hothers : Aside path s.marker (before ++ after))
    {environment : List Variable}
    (henvironment : environment = before ++ after ∨
      ∃ value, environment = before ++ (name, value) :: after)
    {c : Settings} (hload : load { s with environment } = .ok c) :
    ∃ t : Tree, t.IsOrderedTable ∧ load { s with environment := before ++ after } = settings t ∧
      ∀ value, load { s with environment := before ++ (name, value) :: after } =
        settings (t.merge (.branch path (scalar value))) := by
  obtain ⟨layers, hlayers, -⟩ := Except.bind_eq_ok.1 hload
  obtain ⟨lists, user, project, personal, singles, -, hlists, huser, hproject, hpersonal, hsingles,
    -, -⟩ := layers_eq_ok_iff.1 hlayers
  have hwithout : listLayer { s with environment := before ++ after } = .ok lists ∧
      ∃ l, singleLayer { s with environment := before ++ after } = .ok l := by
    rcases henvironment with rfl | ⟨value, rfl⟩
    · exact ⟨hlists, singles, hsingles⟩
    · refine ⟨?_, ?_⟩
      · rw [← hlists, listLayer, listLayer, overrides_middle (listKey?_of_scalarKey? hkey)]
      · obtain ⟨l, -, hl, -⟩ | ⟨-, e, -, he⟩ := singleLayer_middle hpath hplain hkey hothers value
        · exact ⟨l, hl⟩
        · cases hsingles.symm.trans he
  obtain ⟨hlists', l, hl⟩ := hwithout
  exact load_eq_merge_branch hpath hplain hexplicit hkey hothers hlists' huser hproject hpersonal hl

end

end Stack

end AccessPolicy
