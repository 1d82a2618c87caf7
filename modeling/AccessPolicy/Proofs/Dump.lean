/-
Settings that are printed as TOML load to the same settings again
(`Stack.load_dump`): on top of the layers they were loaded from, and alone.

The printed settings are a tree that goes over another one. What the printed
tree has overrides what is below, whatever it is; what it leaves out must not
show through. That is so if there is nothing below in the place of what is left
out (`Settings.Clear`), and settings are clear of the tree they were read from.
So the tree that comes of the merging is a spelling of the settings once more.

That the printed text is read back to the tree it was printed from is taken for
granted. And the two loadings have to merge what is below to the same tree: where
the keys of one source lead to one place, its entries may come in another order the
next time, and what was left out may be there after all (`Stack.load_dump_unsteady`).
-/
import AccessPolicy.Command.Show
import AccessPolicy.Proofs.Encoding
import AccessPolicy.Proofs.EntryOrder
import AccessPolicy.Proofs.SortedTrees

namespace AccessPolicy

/-! ## The notation of merged settings -/

/-- It takes each value for what it is, as the notation of JSON values does. -/
theorem Layers.format_follows : Layers.format.Follows Forms.tree :=
  { Json.valueFormat_follows with
    text := by rintro _ _ rfl; rfl
    bool := by rintro _ _ rfl; rfl
    beyond := fun _ => rfl }

/-! ## What does not show through -/

/-- There is nothing but `null` under the key. -/
def Tree.Lacks (t : Tree) (key : String) : Prop :=
  ∀ u, NameMap.find key t.entries = some u → u = .null

/-- Where the rule has nothing, the tree has nothing either. -/
structure Rule.Clear (r : Rule) (old : Tree) : Prop where
  denyRoles : r.denyRoles = none → old.Lacks "deny_roles"
  denyUsers : r.denyUsers = none → old.Lacks "deny_users"
  allowClaim : r.allowClaim = none → old.Lacks "allow_claim"
  allowClaims : r.allowClaims = none → old.Lacks "allow_claims"

/-- What stands under a key, or `null`. -/
def Tree.under (t : Tree) (key : String) : Tree := (NameMap.find key t.entries).getD .null

/-- Where the settings have nothing, the tree has nothing either: it has no
policies but those of the settings, and the rules are clear of these. -/
def Settings.Clear (c : Settings) (old : Tree) : Prop :=
  ∀ name t, NameMap.find name (old.under "policies").entries = some t →
    ∃ r, c.policies.get? name = some r ∧ r.Clear t

theorem Rule.clear_of_entries_nil (r : Rule) {old : Tree} (h : old.entries = []) : r.Clear old := by
  have hlacks : ∀ key, old.Lacks key := by
    intro key u hu
    rw [h] at hu
    cases hu
  exact ⟨fun _ => hlacks _, fun _ => hlacks _, fun _ => hlacks _, fun _ => hlacks _⟩

section

variable {old : Tree}

theorem Layers.isNull_of_readOption {α : Type} {read : Tree → Except ReadError α} {t : Tree}
    (h : format.readOption read t = .ok none) : t = .null := by
  by_contra hne
  obtain ⟨a, -, ha⟩ := (readOption_eq_ok_iff hne).1 h
  cases ha

/-- A rule is clear of the tree it was read from. -/
theorem Rule.clear_of_readRule (ho : old.Ordered) {r : Rule}
    (h : Layers.format.readRule old = .ok r) : r.Clear old := by
  cases old with
  | table es =>
    have hr := (Layers.readRule_table_iff ho).1 h
    have hlacks : ∀ {α : Type} {read : Tree → Except ReadError α} {key : String} {o : Option α},
        Format.EntryReads (Layers.format.readOption read) none key es o → o = none →
          (Tree.table es).Lacks key := by
      rintro α read key o hentry rfl u hu
      rw [Format.EntryReads, show NameMap.find key es = some u from hu] at hentry
      exact Layers.isNull_of_readOption hentry
    exact ⟨hlacks hr.denyRoles, hlacks hr.denyUsers, hlacks hr.allowClaim, hlacks hr.allowClaims⟩
  | _ => exact r.clear_of_entries_nil rfl

/-- Settings are clear of the tree they were read from. -/
theorem Settings.clear_of_readSettings {es : List (String × Tree)} (ho : (Tree.table es).Ordered)
    {c : Settings} (h : Layers.format.readSettings (.table es) = .ok c) : c.Clear (.table es) := by
  have hpolicies := ((Layers.readSettings_table_iff ho).1 h).policies
  intro name t ht
  rw [Tree.under, Tree.entries_table] at ht
  cases hp : NameMap.find "policies" es with
  | none =>
    rw [hp] at ht
    cases ht
  | some p =>
    rw [hp] at ht
    rw [Format.EntryReads, hp] at hpolicies
    cases p with
    | table ps =>
      obtain ⟨r, hr, hread⟩ := Layers.get?_of_readMap (ho.find hp) hpolicies ht
      exact ⟨r, hr, Rule.clear_of_readRule ((ho.find hp).find ht) hread⟩
    | _ => cases ht

/-! ## What overrides -/

/-- A table that goes over a tree spells a record if the fields are found in what
comes of it. -/
theorem spellsRecord_merge (ho : old.Ordered) {fields : List (FieldForm Tree)}
    {es : List (String × Tree)}
    (h : ∀ f ∈ fields, f.Found id (old.merge (Tree.sorted (.table es))).entries) :
    SpellsRecord .tree fields (old.merge (Tree.sorted (.table es))) := by
  have hordered := ho.merge (Tree.ordered_sorted (.table es))
  exact Forms.tree_renders.spellsRecord (Tree.Ordered.nodup hordered) h

/-- A field of the upper table goes over what is under its name. -/
theorem FieldForm.found_merge {f : FieldForm Tree} {es : List (String × Tree)} {t : Tree}
    (hlast : NameMap.last? f.name es = some t)
    (hspells : f.Spells ((old.under f.name).merge t.sorted)) :
    f.Found id (old.merge (Tree.sorted (.table es))).entries := by
  refine FieldForm.found_of_some (t := (old.under f.name).merge t.sorted) ?_ hspells
  rw [Tree.find_merge_sorted, hlast]
  rfl

/-- An optional field is absent if neither table has it. -/
theorem FieldForm.found_option_merge {α : Type} {Spells : α → Tree → Prop} {toTree : α → Tree}
    {name : String} {o : Option α} {es : List (String × Tree)}
    (hlast : NameMap.last? name es = o.map toTree) (hlacks : o = none → old.Lacks name)
    (h : ∀ a, o = some a → Spells a ((old.under name).merge (toTree a).sorted)) :
    (FieldForm.withDefault name (SpellsOption .tree Spells) none o).Found id
      (old.merge (Tree.sorted (.table es))).entries := by
  cases o with
  | some a => exact FieldForm.found_merge hlast (h a rfl)
  | none =>
    have hfind : NameMap.find name (old.merge (Tree.sorted (.table es))).entries =
        NameMap.find name old.entries := by
      rw [Tree.find_merge_sorted, hlast]
      rfl
    cases hu : NameMap.find name old.entries with
    | none => exact FieldForm.found_of_none (hfind.trans hu) rfl
    | some u => exact FieldForm.found_of_some (hfind.trans hu) (hlacks rfl u hu)

theorem NameSet.spells_merge (s : NameSet) : SpellsNames .tree s (old.merge s.toTree.sorted) := by
  rw [NameSet.toTree, Tree.sorted_texts, Tree.merge_scalar (by simp [Tree.texts])]
  exact Forms.tree_renders.spellsNames s

theorem Tree.merge_text (s : String) : old.merge (Tree.sorted (.text s)) = .text s :=
  Tree.merge_scalar nofun

theorem Tree.merge_bool (b : Bool) : old.merge (Tree.sorted (.bool b)) = .bool b :=
  Tree.merge_scalar nofun

theorem Claim.spells_merge (ho : old.Ordered) (c : Claim) :
    c.Spells .tree (old.merge c.toTree.sorted) := by
  refine spellsRecord_merge ho ?_
  simp only [Claim.forms, List.forall_mem_cons]
  refine ⟨FieldForm.found_merge ?_ (Tree.merge_text _),
    FieldForm.found_merge ?_ c.values.spells_merge, by simp⟩
  all_goals simp [FieldForm.required, FieldForm.withDefault, NameMap.last?_cons]

theorem Logging.spells_merge (ho : old.Ordered) (l : Logging) :
    l.Spells .tree (old.merge l.toTree.sorted) := by
  refine spellsRecord_merge ho ?_
  simp only [Logging.forms, List.forall_mem_cons]
  refine ⟨FieldForm.found_merge ?_ (Tree.merge_text _), FieldForm.found_merge ?_ (Tree.merge_bool _),
    by simp⟩
  all_goals simp [FieldForm.withDefault, NameMap.last?_cons]

theorem Claim.spells_sorted (c : Claim) : c.Spells .tree c.toTree.sorted := by
  have hordered : (Tree.table c.toTree.sorted.entries).Ordered := Tree.ordered_sorted c.toTree
  refine Forms.tree_renders.spellsRecord hordered.nodup ?_
  simp only [Claim.forms, List.forall_mem_cons]
  refine ⟨FieldForm.found_of_some (t := .text c.type) ((Tree.find_sorted _ _).trans ?_) rfl,
    FieldForm.found_of_some (t := c.values.toTree) ((Tree.find_sorted _ _).trans ?_)
      (Forms.tree_renders.spellsNames _), by simp⟩
  · simp [FieldForm.required, NameMap.last?_cons, Tree.sorted]
  · simp [FieldForm.withDefault, NameMap.last?_cons, NameSet.toTree, Tree.sorted_texts]

/-- The claims of a list are those of the upper table. -/
theorem Claim.spellsItems_merge (cs : List Claim) : SpellsItems .tree (Claim.Spells .tree) cs
    (old.merge (Tree.sorted (.list (cs.map Claim.toTree)))) := by
  rw [Tree.sorted, Tree.sortedItems_eq_map, List.map_map, Tree.merge_scalar (by simp)]
  exact Forms.tree_renders.spellsItems (Tree.sorted ∘ Claim.toTree) Claim.spells_sorted cs

theorem last?_optionalEntry {α : Type} (k key : String) (toTree : α → Tree) (o : Option α) :
    NameMap.last? k (optionalEntry key toTree o) = if k = key then o.map toTree else none := by
  cases o with
  | none => simp [optionalEntry]
  | some a => simp [optionalEntry, NameMap.last?_cons, eq_comm]

theorem Rule.spells_merge (ho : old.Ordered) {r : Rule} (h : r.Clear old) :
    r.Spells .tree (old.merge r.toTree.sorted) := by
  refine spellsRecord_merge ho ?_
  simp only [Rule.forms, List.forall_mem_cons]
  refine ⟨FieldForm.found_merge ?_ r.allowRoles.spells_merge,
    FieldForm.found_merge ?_ r.allowUsers.spells_merge,
    FieldForm.found_option_merge ?_ h.denyRoles fun s _ => s.spells_merge,
    FieldForm.found_option_merge ?_ h.denyUsers fun s _ => s.spells_merge,
    FieldForm.found_option_merge ?_ h.allowClaim fun c _ => c.spells_merge (ho.tableEntries.part _),
    FieldForm.found_option_merge ?_ h.allowClaims fun cs _ => Claim.spellsItems_merge cs,
    by simp⟩
  all_goals simp [FieldForm.withDefault, NameMap.last?_append, NameMap.last?_cons, last?_optionalEntry]

/-- What settings are clear of has no policies but theirs. -/
theorem Settings.Clear.find_policies {c : Settings} (h : c.Clear old) {name : String}
    (hname : c.policies.get? name = none) :
    NameMap.find name (old.under "policies").entries = none := by
  cases ht : NameMap.find name (old.under "policies").entries with
  | none => rfl
  | some t =>
    obtain ⟨r, hr, -⟩ := h name t ht
    rw [hname] at hr
    cases hr

theorem Settings.Clear.rule {c : Settings} (h : c.Clear old) {name : String} {r : Rule}
    (hname : c.policies.get? name = some r) : r.Clear ((old.under "policies").under name) := by
  cases ht : NameMap.find name (old.under "policies").entries with
  | none =>
    rw [Tree.under, ht]
    exact r.clear_of_entries_nil rfl
  | some t =>
    obtain ⟨r', hr', hclear⟩ := h name t ht
    cases hname.symm.trans hr'
    rw [Tree.under, ht]
    exact hclear

/-- The policies are those of the settings. -/
theorem Settings.spellsMap_merge (ho : old.Ordered) {c : Settings} (h : c.Clear old) :
    SpellsMap .tree (Rule.Spells .tree) c.policies ((old.under "policies").merge
      (Tree.sorted (.table (c.policies.toList.map fun e => (e.1, e.2.toTree))))) := by
  have hunder : (old.under "policies").Ordered := ho.tableEntries.part _
  generalize htree : (old.under "policies").merge
    (Tree.sorted (.table (c.policies.toList.map fun e => (e.1, e.2.toTree)))) = t
  -- a policy of the settings goes over what is under its name, others stay as they are
  have hfind : ∀ k, NameMap.find k t.entries =
      (c.policies.get? k).elim (NameMap.find k (old.under "policies").entries)
        fun r => some (((old.under "policies").under k).merge r.toTree.sorted) := by
    intro k
    rw [← htree, Tree.find_merge_sorted, NameMap.last?_map fun _ => Rule.toTree,
      NameMap.last?_toList]
    cases c.policies.get? k <;> rfl
  have htable : t = .table t.entries := by
    rw [← htree]
    rfl
  have hnodup : (t.entries.map (·.1)).Nodup := by
    have hordered := hunder.merge
      (Tree.ordered_sorted (.table (c.policies.toList.map fun e => (e.1, e.2.toTree))))
    rw [htree, htable] at hordered
    exact hordered.nodup
  refine ⟨t.entries, htable,
    (List.perm_ext_iff_of_nodup hnodup c.policies.nodup_keys).2 fun k => ?_, fun e he => ?_⟩
  · rw [NameMap.mem_keys, NameMap.contains, ← not_iff_not, ← NameMap.find_eq_none_iff_notMem, hfind]
    cases hr : c.policies.get? k with
    | none => simpa using h.find_policies hr
    | some r => simp
  · have hthere := NameMap.find_eq_some_of_nodup hnodup he
    rw [hfind] at hthere
    cases hr : c.policies.get? e.1 with
    | none =>
      rw [hr] at hthere
      cases (h.find_policies hr).symm.trans hthere
    | some r =>
      rw [hr] at hthere
      rw [← Option.some.inj hthere]
      exact ⟨r, rfl, r.spells_merge (hunder.tableEntries.part _) (h.rule hr)⟩

/-- What settings are clear of does not show through them. -/
theorem Settings.spells_merge (ho : old.Ordered) {c : Settings} (h : c.Clear old) :
    c.Spells .tree (old.merge c.toTree.sorted) := by
  refine spellsRecord_merge ho ?_
  simp only [Settings.forms, List.forall_mem_cons]
  refine ⟨FieldForm.found_merge ?_ c.locked.spells_merge,
    FieldForm.found_merge ?_ (c.logging.spells_merge (ho.tableEntries.part _)),
    FieldForm.found_merge ?_ (Settings.spellsMap_merge ho h), by simp⟩
  all_goals simp [FieldForm.withDefault, NameMap.last?_cons]

end

/-! ## The printed text as a layer -/

/-- The first entry of printed settings are the locked names. -/
theorem Command.exists_tomlDump (c : Settings) : ∃ rest, tomlDump c = "locked" ++ rest := by
  have hheader : Toml.hasHeader c.locked.toTree = false := by
    rw [NameSet.toTree, Tree.texts]
    cases c.locked.toList <;> rfl
  have hkey : Toml.printKey "locked" = "locked" := by decide
  obtain ⟨body, hbody⟩ : ∃ body, Toml.printBody c.toTree.entries = "locked" ++ body := by
    rw [Settings.toTree, Tree.entries_table, Toml.printBody,
      List.filter_cons_of_pos (by rw [hheader]; rfl), List.map_cons, String.join_cons, hkey]
    simp only [String.append_assoc]
    exact ⟨_, rfl⟩
  have hown : Toml.ownPart false [] c.toTree.entries = ["locked" ++ body] := by
    simp [Toml.ownPart, hbody]
  have hparts : Toml.parts false [] c.toTree =
      ("locked" ++ body) :: Toml.innerParts [] c.toTree.entries := by
    show Toml.ownPart false [] c.toTree.entries ++ _ = _
    rw [hown]
    rfl
  rw [tomlDump, Toml.print, hparts]
  cases Toml.innerParts [] c.toTree.entries with
  | nil => exact ⟨body, String.intercalate_singleton⟩
  | cons part parts =>
    rw [String.intercalate_cons_cons]
    simp only [String.append_assoc]
    exact ⟨_, rfl⟩

namespace Layer

theorem textOf_toBytes {s : String} (h : s.toList.head? ≠ some '\ufeff') :
    textOf (Text.toBytes s) = s := by
  rcases textOf_of_text (Text.ofBytes?_toBytes s) with hs | hs
  · exact hs.symm
  · rw [hs] at h
    exact absurd (by simp) h

/-- A document without numbers is merged as it stands. -/
theorem ofTree?_of_numberFree {es : List (String × Tree)} (h : (Tree.table es).numberFree = true) :
    ofTree? (.table es) = some es := by
  rw [ofTree?, value?_of_numberFree h]

theorem ofFile?_tomlDump {c : Settings}
    (hparse : Toml.ofText? dialect (Command.tomlDump c) = some c.toTree.sorted) :
    ofFile? (Text.toBytes (Command.tomlDump c)) = some c.toTree.sorted.entries := by
  have htext : textOf (Text.toBytes (Command.tomlDump c)) = Command.tomlDump c := by
    obtain ⟨rest, hrest⟩ := Command.exists_tomlDump c
    refine textOf_toBytes ?_
    rw [hrest, String.toList_append]
    simp
  rw [ofFile?, htext, hparse]
  exact ofTree?_of_numberFree (Tree.numberFree_sorted c.numberFree_toTree)

/-- The names of the fields of settings are plain. -/
theorem isPlain_sorted_toTree (c : Settings) :
    ∀ e ∈ c.toTree.sorted.entries, KeyPath.isPlain e.1 = true := by
  intro e he
  have hmem : e ∈ Tree.sortedEntries c.toTree.entries := NameMap.mem_of_mem_ofList he
  rw [Tree.sortedEntries_eq_map] at hmem
  simp only [Settings.toTree, Tree.entries_table, List.map_cons, List.map_nil, List.mem_cons,
    List.not_mem_nil, or_false] at hmem
  rcases hmem with rfl | rfl | rfl <;> dsimp only <;> decide

theorem nodup_sorted_toTree (c : Settings) : (c.toTree.sorted.entries.map (·.1)).Nodup := by
  have hordered : (Tree.table c.toTree.sorted.entries).Ordered := Tree.ordered_sorted c.toTree
  exact hordered.nodup

end Layer

/-! ## Loading -/

namespace Stack

/-- Settings over what they are clear of are these settings. -/
theorem settings_mergeOver {c : Settings} {es : List (String × Tree)} (ho : (Tree.table es).Ordered)
    (hclear : c.Clear (.table es)) :
    settings (Layer.mergeOver (.table es) c.toTree.sorted.entries) = .ok c := by
  rw [Layer.mergeOver_eq_merge_of_plain (Layer.isPlain_sorted_toTree c), settings_eq_ok_iff]
  exact (Layers.format_follows.reads_settings (Settings.spells_merge ho hclear)).2

/-- The defaults have no policies. -/
theorem clear_defaults (c : Settings) : c.Clear defaults := nofun

/-- A file that holds settings as they are printed. -/
def dumped (c : Settings) : NamedFile := .present (Text.toBytes (Command.tomlDump c))

/-- The file goes over what the layers below are merged to, and nothing shows through. -/
theorem load_of_dumped {s : Stack} {c : Settings} {es : List (String × Tree)}
    (hparse : Toml.ofText? Layer.dialect (Command.tomlDump c) = some c.toTree.sorted)
    (hbase : s.base = .ok (.table es)) (hclear : c.Clear (.table es))
    (hexplicit : s.explicit = some (dumped c)) : s.load = .ok c := by
  obtain ⟨layer, hlayer, hmerge⟩ := taken_of_plain (Layer.isPlain_sorted_toTree c)
    (Layer.nodup_sorted_toTree c) s.room s.orders.explicit
  have hnamed : s.namedLayer = .ok layer := by
    rw [namedLayer, hexplicit, ← hlayer]
    exact congrArg _ (Layer.ofFile?_tomlDump hparse)
  rw [load_of_base hbase hnamed, hmerge]
  exact settings_mergeOver (base_isOrderedTable hbase).1 hclear

/-- What no layers are merged to: the defaults. -/
theorem base_empty (marker : String) (orders : Orders) (room : Nat) (explicit : Option NamedFile) :
    base { explicit, marker, orders, room } = .ok defaults := by
  have hlayers : layers { marker, orders, room } =
      .ok [({} : Settings).toTree.entries, [], [], [], [], [], []] :=
    layers_eq_ok_iff.2 ⟨[], [], [], [], [], [], listLayer_nil rfl, taken_nil _ _, taken_nil _ _,
      taken_nil _ _, singleLayer_nil rfl, taken_nil _ _, rfl⟩
  show layers { marker, orders, room } >>= _ = _
  rw [hlayers]
  exact congrArg Except.ok mergeOver_defaults

/-- The sources stay steady with a file of printed settings over them. -/
theorem Steady.withDump {s : Stack} (h : s.Steady) {c : Settings}
    (hparse : Toml.ofText? Layer.dialect (Command.tomlDump c) = some c.toTree.sorted) :
    Steady { s with explicit := some (dumped c) } where
  user := h.user
  project := h.project
  personal := h.personal
  explicit := by
    intro layer hlayer
    cases (Layer.ofFile?_tomlDump hparse).symm.trans hlayer
    exact Layer.parted_of_plain (Layer.isPlain_sorted_toTree c) (Layer.nodup_sorted_toTree c)
  single := h.single
  singles := h.singles
  lists := h.lists

/-- **Printed settings load to themselves**, over the layers they come from and
alone. That the text is read to the tree it was printed from, with its entries
in order, is the assumption. The entries of the layers may come in other orders than
the first time, as long as these are merged to the same; they are if the paths of the
entries of each source part. Alone, no order matters. -/
theorem load_dump {s : Stack} {c : Settings} (hexplicit : s.explicit = none) (hload : s.load = .ok c)
    (hparse : Toml.ofText? Layer.dialect (Command.tomlDump c) = some c.toTree.sorted) :
    Command.showSettings s "toml" = { out := [Terminal.plain (Command.tomlDump c)] } ∧
      load { s with explicit := some (dumped c) } = .ok c ∧
      (∀ orders, base { s with orders } = s.base →
        load { s with orders, explicit := some (dumped c) } = .ok c) ∧
      (s.Steady → ∀ orders, load { s with orders, explicit := some (dumped c) } = .ok c) ∧
      ∀ marker orders room, load { explicit := some (dumped c), marker, orders, room } = .ok c := by
  rw [load_eq_base hexplicit] at hload
  obtain ⟨t, hbase, hsettings⟩ := Except.bind_eq_ok.1 hload
  obtain ⟨ho, es, rfl⟩ := base_isOrderedTable hbase
  have hclear : c.Clear (.table es) :=
    Settings.clear_of_readSettings ho (settings_eq_ok_iff.1 hsettings)
  -- the file goes over the very tree that its settings were read from
  have hagain : load { s with explicit := some (dumped c) } = .ok c :=
    load_of_dumped hparse hbase hclear rfl
  refine ⟨?_, hagain, fun orders horders => ?_, fun hsteady orders => ?_, fun marker orders room => ?_⟩
  · rw [Command.showSettings, load_eq_base hexplicit, hload]
    rfl
  · exact load_of_dumped hparse (horders.trans hbase) hclear rfl
  · rw [← hagain]
    exact load_orders (hsteady.withDump hparse) orders
  · exact load_of_dumped hparse (base_empty marker orders room _) (clear_defaults c) rfl

/-- A policy with a dot in its name, whose rule is a list of its fields. -/
def positional : Stack where
  project := Text.toBytes "policies.'a.b' = [['x'], [], []]"
  personal := Text.toBytes "locked = ['z']"

/-- What it loads to. The roles that are refused are there and empty, the users
that are refused are absent. -/
def positionalSettings : Settings where
  locked := .ofList ["z"]
  policies := .ofList [("a.b", { allowRoles := .ofList ["x"], denyRoles := some ∅ })]

theorem load_dump_positional : positional.load = .ok positionalSettings ∧ positional.Steady ∧
    (∀ orders, load { positional with orders, explicit := some (dumped positionalSettings) } =
      .ok positionalSettings) ∧
    load { explicit := some (dumped positionalSettings) } = .ok positionalSettings := by
  have hload : positional.load = .ok positionalSettings := by decide +kernel
  have hparse : Toml.ofText? Layer.dialect (Command.tomlDump positionalSettings) =
      some positionalSettings.toTree.sorted := by
    have htext : Command.tomlDump positionalSettings = "\n".intercalate ["locked = [\"z\"]", "",
        "[logging]", "level = \"warn\"", "audit = true", "", "[policies.\"a.b\"]",
        "allow_roles = [\"x\"]", "allow_users = []", "deny_roles = []", ""] := by
      decide +kernel
    rw [htext]
    decide +kernel
  have hsteady : positional.Steady := by
    constructor <;> decide +kernel
  obtain ⟨-, -, -, hover, halone⟩ := load_dump (s := positional) rfl hload hparse
  exact ⟨hload, hsteady, hover hsteady, halone _ _ _⟩

/-- A policy that is emptied by one key, and gets a list by another. -/
def toggled : Stack where
  project := Text.toBytes "'policies.ops' = []\n'policies.ops.deny_roles' = ['x']"

/-- The order in which the emptying comes last. -/
def emptyingLast : Orders where
  project := ["policies.ops.deny_roles", "policies.ops"]

/-- The policy without the list. -/
def emptied : Settings where
  policies := .ofList [("ops", {})]

/-- Both keys are merged in at one place. If the emptying comes last, the settings have
no list; if it comes first the next time, the list is there, though the file that
goes over it was printed without. -/
theorem load_dump_unsteady : load { toggled with orders := emptyingLast } = .ok emptied ∧
    Toml.ofText? Layer.dialect (Command.tomlDump emptied) = some emptied.toTree.sorted ∧
    load { toggled with explicit := some (dumped emptied) } =
      .ok { policies := .ofList [("ops", { denyRoles := some (.ofList ["x"]) })] } := by
  have hparse : Toml.ofText? Layer.dialect (Command.tomlDump emptied) = some emptied.toTree.sorted := by
    have htext : Command.tomlDump emptied = "\n".intercalate ["locked = []", "",
        "[logging]", "level = \"warn\"", "audit = true", "", "[policies.ops]",
        "allow_roles = []", "allow_users = []", ""] := by
      decide +kernel
    rw [htext]
    decide +kernel
  refine ⟨?_, hparse, ?_⟩ <;> decide +kernel

end Stack

end AccessPolicy
