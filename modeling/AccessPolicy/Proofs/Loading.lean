/-
What settings are loaded from layers: field by field, what the topmost layer
says that says anything about the field.

The layers here are trees of the shape of settings (`Stack.WellShaped`), that
is, files and variables with the fields of settings only, each of its own
kind. Numbers in the place of texts and other layers that the loading puts up
with are not covered, nor are variables that change a single element of a
list. What such layers are loaded to, and when they are not, is
`Stack.load_of_wellShaped`.
-/
import AccessPolicy.Proofs.Documents
import AccessPolicy.Proofs.Environment

namespace AccessPolicy

/-! ## The specification -/

namespace Stack

/-- The tree of the layer that a file makes up. -/
def fileTree (layer : Option Layer) : Tree := .table (layer.getD [])

/-- The layers as trees, the topmost first: the file that is named on purpose,
the variables, and the files of this copy of the project, of the project, and
of the user. A file that is absent is an empty tree. -/
def trees (s : Stack) : List Tree := [
  fileTree (explicitLayer s.explicit), Variables.tree s.marker s.environment,
  fileTree (fileLayer s.personal), fileTree (fileLayer s.project), fileTree (fileLayer s.user)]

/-- Whether a file can be read, and has the shape of settings. -/
def isSettings (layer : Option Layer) : Bool := layer.any fun es => Shape.settings.admits (.table es)

/-- All layers can be read, and have the shape of settings. -/
structure WellShaped (s : Stack) : Prop where
  explicit : isSettings (explicitLayer s.explicit) = true
  environment : Variables.WellShaped s.marker s.environment
  personal : isSettings (fileLayer s.personal) = true
  project : isSettings (fileLayer s.project) = true
  user : isSettings (fileLayer s.user) = true

end Stack

/-- What the first of some trees has at a path that has something there. -/
def topmost? (path : List String) (ts : List Tree) : Option Tree := ts.findSome? (Tree.at? path)

theorem topmost?_cons (path : List String) (t : Tree) (ts : List Tree) :
    topmost? path (t :: ts) = (t.at? path).or (topmost? path ts) := by
  rw [topmost?, List.findSome?_cons]
  cases t.at? path <;> rfl

/-- Whether some tree has something at a path. -/
def Anywhere (path : List String) (ts : List Tree) : Prop := ∃ t ∈ ts, (t.at? path).isSome = true

/-- Some policy has a required claim, and no layer says of which type. -/
def Untyped (ts : List Tree) : Prop :=
  ∃ n, Anywhere ["policies", n, "allow_claim"] ts ∧ ¬ Anywhere ["policies", n, "allow_claim", "type"] ts

/-- Every field of the rule for a policy is what the topmost layer says. A list
that no layer has stays absent where that differs from an empty one. The two
parts of the single claim are fields of their own. -/
structure Rule.Layered (ts : List Tree) (n : String) (r : Rule) : Prop where
  allowRoles : r.allowRoles = ((topmost? ["policies", n, "allow_roles"] ts).map Tree.names).getD ∅
  allowUsers : r.allowUsers = ((topmost? ["policies", n, "allow_users"] ts).map Tree.names).getD ∅
  denyRoles : r.denyRoles = (topmost? ["policies", n, "deny_roles"] ts).map Tree.names
  denyUsers : r.denyUsers = (topmost? ["policies", n, "deny_users"] ts).map Tree.names
  allowClaim : r.allowClaim.isSome = true ↔ Anywhere ["policies", n, "allow_claim"] ts
  claimType : ∀ c, r.allowClaim = some c →
    (topmost? ["policies", n, "allow_claim", "type"] ts).map Tree.asText = some c.type
  claimValues : ∀ c, r.allowClaim = some c →
    c.values = ((topmost? ["policies", n, "allow_claim", "values"] ts).map Tree.names).getD ∅
  allowClaims : r.allowClaims =
    (topmost? ["policies", n, "allow_claims"] ts).map fun l => l.items.map Claim.ofTree

/-- The policies are those of all layers, and every field is what the topmost
layer says, or else the default. -/
structure Settings.Layered (ts : List Tree) (c : Settings) : Prop where
  locked : c.locked = ((topmost? ["locked"] ts).map Tree.names).getD ∅
  level : c.logging.level = ((topmost? ["logging", "level"] ts).map Tree.asText).getD "warn"
  audit : c.logging.audit = ((topmost? ["logging", "audit"] ts).map Tree.asBool).getD true
  policies : ∀ n, c.policies.contains n = true ↔ Anywhere ["policies", n] ts
  rules : ∀ n r, c.policies.get? n = some r → r.Layered ts n

/-! ## Merging the layers -/

namespace Stack

/-- The defaults, merged over nothing. -/
def defaults : Tree := .table [("locked", .texts []),
  ("logging", .table [("audit", .bool true), ("level", .text "warn")]), ("policies", .table [])]

theorem mergeOver_defaults :
    Layer.mergeOver (.table []) ({} : Settings).toTree.entries = defaults := by
  decide +kernel

theorem defaults_admits : Shape.settings.admits defaults = true := by decide

theorem defaults_ordered : defaults.Ordered := by
  refine .table (by decide) ?_
  simp only [List.forall_mem_cons]
  refine ⟨.texts [], .table (by decide) ?_, .empty, by simp⟩
  simp only [List.forall_mem_cons]
  exact ⟨.bool _, .text _, by simp⟩

theorem fileLayer_ordered {content : Option Bytes} {es : Layer} (h : fileLayer content = some es) :
    Tree.Ordered (.table es) := by
  cases content with
  | none =>
    cases h
    exact .empty
  | some bs => exact Layer.ofFile?_ordered h

theorem explicitLayer_ordered {file : Option NamedFile} {es : Layer}
    (h : explicitLayer file = some es) : Tree.Ordered (.table es) := by
  cases file with
  | none =>
    cases h
    exact .empty
  | some file =>
    cases file with
    | missing => cases h
    | present bs => exact Layer.ofFile?_ordered h

theorem settings_eq_ok_iff {t : Tree} {c : Settings} :
    settings t = .ok c ↔ Layers.format.readSettings t = .ok c :=
  Except.mapError_eq_ok

theorem settings_eq_error {t : Tree} {e : LoadError} (h : settings t = .error e) :
    e = .badSettings := by
  rw [settings] at h
  cases hread : Layers.format.readSettings t with
  | error _ =>
    rw [hread] at h
    cases h
    rfl
  | ok c =>
    rw [hread] at h
    cases h

/-- What is loaded if all layers can be taken. -/
theorem load_eq {s : Stack} {lists user project personal singles named : Layer}
    (hlists : s.listLayer = .ok lists) (huser : s.userLayer = .ok user)
    (hproject : s.projectLayer = .ok project) (hpersonal : s.personalLayer = .ok personal)
    (hsingles : s.singleLayer = .ok singles) (hnamed : s.namedLayer = .ok named) :
    s.load = settings (Layer.mergeOver (Layer.mergeOver (Layer.mergeOver
      ([user, project, personal].foldl Layer.mergeOver defaults) singles) lists) named) := by
  have hlayers : s.layers =
      .ok [({} : Settings).toTree.entries, user, project, personal, singles, lists, named] := by
    simp only [layers, hlists, huser, hproject, hpersonal, hsingles, hnamed]
    rfl
  rw [load, hlayers]
  show settings (merged _) = _
  simp only [merged, List.foldl_cons, List.foldl_nil]
  rw [mergeOver_defaults]

/-! ### Sources with nothing in them -/

theorem taken_nil (room : Nat) (order : List String) : taken room order (some []) = .ok [] := by
  rw [taken, arrange_nil]
  rfl

theorem listLayer_nil {s : Stack} (h : s.environment = []) : s.listLayer = .ok [] := by
  rw [listLayer, h]
  show Except.ok (Variables.lists s.orders.lists []).entries = _
  rw [Variables.lists, Variables.inOrder, lastOfEach, arrange_nil]
  rfl

theorem singleLayer_nil {s : Stack} (h : s.environment = []) : s.singleLayer = .ok [] := by
  have hsingles : s.singles.toList = [] := by
    rw [singles, h, Variables.scalars_eq]
    show NameMap.toList (.ofList (List.filterMap _ (arrange _ _ []))) = []
    rw [arrange_nil]
    rfl
  rw [singleLayer, hsingles, taken_nil]

/-! ### Layers as functions -/

/-- What merging a layer in does to a tree, if the layer can be taken. -/
def merger (layer : Except LoadError Layer) : Except LoadError (Tree → Tree) :=
  layer.map fun l t => Layer.mergeOver t l

/-- Loading is a matter of what merging the layers in does. -/
theorem load_eq_mergers (s : Stack) : s.load = (do
    let lists ← merger s.listLayer
    let user ← merger s.userLayer
    let project ← merger s.projectLayer
    let personal ← merger s.personalLayer
    let singles ← merger s.singleLayer
    let named ← merger s.namedLayer
    settings (named (lists (singles (personal (project (user defaults))))))) := by
  rw [load, layers]
  cases s.listLayer with
  | error e => rfl
  | ok lists =>
  cases s.userLayer with
  | error e => rfl
  | ok user =>
  cases s.projectLayer with
  | error e => rfl
  | ok project =>
  cases s.personalLayer with
  | error e => rfl
  | ok personal =>
  cases s.singleLayer with
  | error e => rfl
  | ok singles =>
  cases s.namedLayer with
  | error e => rfl
  | ok named =>
    show settings (merged _) = settings _
    simp only [merged, List.foldl_cons, List.foldl_nil, mergeOver_defaults]

/-- The order of the entries of a layer does not matter if their paths part. -/
theorem merger_taken {room : Nat} {source : Option Layer}
    (h : ∀ es, source = some es → es.Pairwise Layer.Parted) (order order' : List String) :
    merger (taken room order source) = merger (taken room order' source) := by
  cases source with
  | none => rfl
  | some es =>
    rw [taken, taken]
    split
    · refine congrArg Except.ok (funext fun t => ?_)
      exact (Layer.mergeOver_arrange (h es rfl) order t).trans
        (Layer.mergeOver_arrange (h es rfl) order' t).symm
    · rfl

/-! ### Layers of the shape of settings -/

/-- A layer whose keys are plain names is taken, and the order of its entries makes
no difference. -/
theorem taken_of_plain {es : Layer} (hplain : ∀ e ∈ es, KeyPath.isPlain e.1 = true)
    (hkeys : (es.map (·.1)).Nodup) (room : Nat) (order : List String) :
    ∃ l, taken room order (some es) = .ok l ∧ ∀ t, Layer.mergeOver t l = Layer.mergeOver t es := by
  refine ⟨arrange (·.1) order es, ?_, Layer.mergeOver_arrange (Layer.parted_of_plain hplain hkeys) order⟩
  rw [taken, if_pos (Layer.fits_of_plain room fun e he => ?_)]
  rw [KeyPath.splitAt_of_plain (hplain e he), List.forall_mem_singleton]
  exact hplain e he

/-- A source of the shape of settings is taken as a whole, and the order of its
entries makes no difference. -/
theorem exists_taken {source : Option Layer} (h : isSettings source = true)
    (hordered : ∀ {es}, source = some es → (Tree.table es).Ordered) (room : Nat) (order : List String) :
    ∃ es l, fileTree source = .table es ∧ Shape.settings.admits (.table es) = true ∧
      (Tree.table es).Ordered ∧ taken room order source = .ok l ∧
      ∀ t, Layer.mergeOver t l = Layer.mergeOver t es := by
  cases source with
  | none => cases h
  | some es =>
    obtain ⟨l, hl, hmerge⟩ := taken_of_plain (fun _ he => Layer.isPlain_of_admits h he)
      (hordered rfl).nodup room order
    exact ⟨es, l, rfl, h, hordered rfl, hl, hmerge⟩

/-- Variables that name paths by plain names are taken. -/
theorem variables_of_plain {s : Stack} (h : Variables.Plain s.marker s.environment) :
    s.listLayer = .ok (Variables.lists s.orders.lists
      (Variables.listed s.marker s.environment)).entries ∧
    s.singleLayer = .ok (arrange (·.1) s.orders.scalars s.singles.toList) := by
  constructor
  · have hfits : (Variables.listed s.marker s.environment).fits s.room = true :=
      Layer.fits_of_plain s.room fun e he => h e (Variables.listed_subset e he)
    rw [listLayer, Variables.overrides_eq_listed h.find?_isAstray]
    show (if _ then _ else _) = _
    rw [if_pos hfits]
    rfl
  · rw [singleLayer, taken, if_pos (Layer.fits_of_plain s.room fun e he => ?_)]
    exact h e (Variables.scalars_subset _ e he)

/-- The merged layers, as far as the shape of settings tells: they have the
shape, at each leaf there is what the topmost layer has, and other paths are
those of all layers. -/
theorem merged_of_wellShaped {s : Stack} (h : s.WellShaped) :
    ∃ m : Tree, s.load = settings m ∧ Shape.settings.admits m = true ∧ m.Ordered ∧
      (∀ path, Shape.settings.IsLeaf path →
        m.at? path = (topmost? path s.trees).or (defaults.at? path)) ∧
      ∀ path, (m.at? path).isSome = true ↔
        Anywhere path s.trees ∨ (defaults.at? path).isSome = true := by
  obtain ⟨user, user', htreeUser, hadmitsUser, huser, htakenUser, hmergeUser⟩ :=
    exists_taken h.user fileLayer_ordered s.room s.orders.user
  obtain ⟨project, project', htreeProject, hadmitsProject, hproject, htakenProject, hmergeProject⟩ :=
    exists_taken h.project fileLayer_ordered s.room s.orders.project
  obtain ⟨personal, personal', htreePersonal, hadmitsPersonal, hpersonal, htakenPersonal,
    hmergePersonal⟩ := exists_taken h.personal fileLayer_ordered s.room s.orders.personal
  obtain ⟨explicit, explicit', htreeExplicit, hadmitsExplicit, hexplicit, htakenExplicit,
    hmergeExplicit⟩ := exists_taken h.explicit explicitLayer_ordered s.room s.orders.explicit
  have htrees : s.trees = [.table explicit, Variables.tree s.marker s.environment,
      .table personal, .table project, .table user] := by
    rw [trees, htreeExplicit, htreePersonal, htreeProject, htreeUser]
  have hfiles : Shape.settings.AdmitsAll ([user, project, personal].map .table) := by
    simp only [Shape.AdmitsAll, List.map_cons, List.forall_mem_cons]
    exact ⟨⟨hadmitsUser, huser⟩, ⟨hadmitsProject, hproject⟩, ⟨hadmitsPersonal, hpersonal⟩, by simp⟩
  obtain ⟨hlists, hsingles⟩ := variables_of_plain h.environment.plain
  have hperm := perm_arrange (·.1) s.orders.scalars s.singles.toList
  generalize arrange (·.1) s.orders.scalars s.singles.toList = singles at hsingles hperm
  -- below the variables, on them, and on top of both
  have hbelow : [user', project', personal'].foldl Layer.mergeOver defaults =
      Shape.overlay defaults ([user, project, personal].map .table) := by
    rw [← Layer.foldl_mergeOver defaults_admits defaults_ordered hfiles]
    simp only [List.foldl_cons, List.foldl_nil, hmergeUser, hmergeProject, hmergePersonal]
  obtain ⟨hadmits, hordered⟩ := Shape.overlay_admits defaults_admits defaults_ordered hfiles
  generalize hy : Shape.overlay defaults ([user, project, personal].map .table) = y at *
  obtain ⟨hadmits', hordered'⟩ :=
    Variables.layers_admits hperm h.environment hadmits hordered s.orders.lists
  have hleaf := fun path (hp : Shape.settings.IsLeaf path) =>
    Variables.at?_layers hperm h.environment hp hadmits hordered s.orders.lists
  have hsome := fun path =>
    Variables.isSome_at?_layers hperm path h.environment hadmits hordered s.orders.lists
  generalize hz : Layer.mergeOver (Layer.mergeOver y singles) _ = z at *
  refine ⟨z.merge (.table explicit), ?_, ?_, ?_, ?_, ?_⟩
  · rw [load_eq hlists htakenUser htakenProject htakenPersonal hsingles htakenExplicit, hbelow, hz,
      hmergeExplicit, Layer.mergeOver_eq_merge hadmitsExplicit hadmits']
  · exact Shape.admits_merge (.inr hadmits') hordered' hadmitsExplicit hexplicit
  · exact hordered'.merge hexplicit
  · intro path hp
    rw [Shape.at?_merge_leaf hp (.inr hadmits') hadmitsExplicit hexplicit,
      hleaf path hp, ← hy, Shape.at?_overlay hp defaults_admits defaults_ordered hfiles, htrees]
    show (Tree.at? path _).or ((Tree.at? path _).or
      ((topmost? path [.table personal, .table project, .table user]).or _)) = _
    simp only [topmost?_cons, Option.or_assoc]
  · intro path
    rw [Shape.isSome_at?_merge (.inr hadmits') hadmitsExplicit hexplicit,
      Bool.or_eq_true, hsome path, ← hy,
      Shape.isSome_at?_overlay defaults_admits defaults_ordered hfiles, htrees]
    simp [Anywhere, or_assoc, or_comm, or_left_comm]

end Stack

/-! ## What the merged layers say -/

theorem Tree.at?_of_at? {ks : List String} {t u : Tree} (h : t.at? ks = some u) (ls : List String) :
    t.at? (ks ++ ls) = u.at? ls := by
  rw [Tree.at?_append, h, Option.bind_some]

theorem Settings.get?_policies_ofTree {m : Tree} (ho : m.Ordered) (n : String) :
    (Settings.ofTree m).policies.get? n = (m.at? ["policies", n]).map Rule.ofTree := by
  rw [show ["policies", n] = ["policies"] ++ [n] from rfl, Tree.at?_append]
  simp only [Settings.ofTree]
  cases hp : m.at? ["policies"] with
  | none => rfl
  | some p =>
    have hlast : NameMap.last? n p.entries = NameMap.find n p.entries :=
      NameMap.last?_toList ⟨p.entries, (ho.at? hp).tableEntries.increasing⟩ n
    simp only [Option.map_some, Option.getD_some, Option.bind_some, Tree.at?_singleton]
    rw [NameMap.get?_ofList, NameMap.last?_map (fun _ => Rule.ofTree), hlast]

theorem Tree.claimsTyped_iff {m : Tree} (ho : m.Ordered) :
    m.ClaimsTyped ↔ ∀ n, (m.at? ["policies", n, "allow_claim"]).isSome = true →
      (m.at? ["policies", n, "allow_claim", "type"]).isSome = true := by
  constructor
  · intro h n hn
    obtain ⟨c, hc⟩ := Option.isSome_iff_exists.1 hn
    obtain ⟨p, hp, hpc⟩ := Option.bind_eq_some_iff.1 (Tree.at?_append ["policies"] _ m ▸ hc)
    obtain ⟨r, hr, hrc⟩ := Option.bind_eq_some_iff.1 (Tree.at?_append [n] ["allow_claim"] p ▸ hpc)
    rw [Tree.at?_singleton] at hr
    have hc' : m.at? (["policies", n, "allow_claim"] ++ ["type"]) = c.at? ["type"] :=
      Tree.at?_of_at? hc _
    show (m.at? (["policies", n, "allow_claim"] ++ ["type"])).isSome = true
    rw [hc']
    exact h p hp (n, r) (NameMap.mem_of_find hr) c hrc
  · intro h p hp e he c hc
    have hr : p.at? [e.1] = some e.2 := by
      rw [Tree.at?_singleton, NameMap.find_eq_some (ho.at? hp).tableEntries.increasing]
      exact he
    have hat : m.at? (["policies"] ++ ([e.1] ++ ["allow_claim"])) = some c := by
      rw [Tree.at?_of_at? hp, Tree.at?_of_at? hr, hc]
    have htype : m.at? (["policies", e.1, "allow_claim"] ++ ["type"]) = c.at? ["type"] :=
      Tree.at?_of_at? hat _
    rw [← htype]
    exact h e.1 (by rw [show m.at? ["policies", e.1, "allow_claim"] = some c from hat]; rfl)

section

variable {m : Tree} {ts : List Tree}
  (hleaf : ∀ path, Shape.settings.IsLeaf path →
    m.at? path = (topmost? path ts).or (Stack.defaults.at? path))
  (hsome : ∀ path, (m.at? path).isSome = true ↔
    Anywhere path ts ∨ (Stack.defaults.at? path).isSome = true)

include hleaf hsome

theorem Rule.layered_ofTree (htyped : m.ClaimsTyped) (ho : m.Ordered) {n : String} {p : Tree}
    (hp : m.at? ["policies", n] = some p) : (Rule.ofTree p).Layered ts n := by
  -- below a policy the defaults have nothing
  have hfield : ∀ {k : String} {ks : List String},
      Shape.settings.IsLeaf ("policies" :: n :: k :: ks) →
      p.at? (k :: ks) = topmost? ("policies" :: n :: k :: ks) ts := by
    intro k ks hk
    have hat : m.at? (["policies", n] ++ k :: ks) = p.at? (k :: ks) := Tree.at?_of_at? hp _
    rw [← hat, List.cons_append, List.cons_append, List.nil_append, hleaf _ hk]
    exact Option.or_none
  have hclaim : (p.at? ["allow_claim"]).isSome = true ↔
      Anywhere ["policies", n, "allow_claim"] ts := by
    have hat : m.at? (["policies", n] ++ ["allow_claim"]) = p.at? ["allow_claim"] :=
      Tree.at?_of_at? hp _
    rw [← hat, List.cons_append, List.cons_append, List.nil_append, hsome]
    exact or_iff_left Bool.false_ne_true
  constructor
  · rw [← hfield ⟨.names, rfl, rfl⟩]
    rfl
  · rw [← hfield ⟨.names, rfl, rfl⟩]
    rfl
  · rw [← hfield ⟨.names, rfl, rfl⟩]
    rfl
  · rw [← hfield ⟨.names, rfl, rfl⟩]
    rfl
  · rw [← hclaim]
    simp [Rule.ofTree]
  · intro c hc
    obtain ⟨y, hy, rfl⟩ := Option.map_eq_some_iff.1 hc
    have hat : m.at? (["policies", n] ++ ["allow_claim"]) = some y := by
      rw [Tree.at?_of_at? hp, hy]
    obtain ⟨v, hv⟩ := Option.isSome_iff_exists.1 ((Tree.claimsTyped_iff ho).1 htyped n
      (by rw [show m.at? ["policies", n, "allow_claim"] = some y from hat]; rfl))
    have hyv : y.at? ["type"] = some v := (Tree.at?_of_at? hat _).symm.trans hv
    have hpv : p.at? ["allow_claim", "type"] = some v := (Tree.at?_of_at? hy _).trans hyv
    rw [← hfield ⟨.text, rfl, rfl⟩, hpv, Claim.ofTree, hyv]
    rfl
  · intro c hc
    obtain ⟨y, hy, rfl⟩ := Option.map_eq_some_iff.1 hc
    have hat : p.at? (["allow_claim"] ++ ["values"]) = y.at? ["values"] := Tree.at?_of_at? hy _
    rw [← hfield ⟨.names, rfl, rfl⟩]
    show _ = (Option.map Tree.names (p.at? (["allow_claim"] ++ ["values"]))).getD ∅
    rw [hat]
    rfl
  · rw [← hfield ⟨.list (.claim ["type"]), rfl, rfl⟩]
    rfl

theorem Settings.layered_ofTree (htyped : m.ClaimsTyped) (ho : m.Ordered) :
    (Settings.ofTree m).Layered ts := by
  constructor
  · simp only [Settings.ofTree]
    rw [hleaf ["locked"] ⟨.names, rfl, rfl⟩]
    cases topmost? ["locked"] ts <;> rfl
  · have hlevel : (Settings.ofTree m).logging.level =
        ((m.at? (["logging"] ++ ["level"])).map Tree.asText).getD "warn" := by
      rw [Tree.at?_append, Settings.ofTree]
      cases m.at? ["logging"] <;> rfl
    rw [hlevel, List.singleton_append, hleaf _ ⟨.text, rfl, rfl⟩]
    cases topmost? ["logging", "level"] ts <;> rfl
  · have haudit : (Settings.ofTree m).logging.audit =
        ((m.at? (["logging"] ++ ["audit"])).map Tree.asBool).getD true := by
      rw [Tree.at?_append, Settings.ofTree]
      cases m.at? ["logging"] <;> rfl
    rw [haudit, List.singleton_append, hleaf _ ⟨.bool, rfl, rfl⟩]
    cases topmost? ["logging", "audit"] ts <;> rfl
  · intro n
    rw [NameMap.contains, Settings.get?_policies_ofTree ho, Option.isSome_map, hsome]
    exact or_iff_left Bool.false_ne_true
  · intro n r hr
    rw [Settings.get?_policies_ofTree ho] at hr
    obtain ⟨p, hp, rfl⟩ := Option.map_eq_some_iff.1 hr
    exact Rule.layered_ofTree hleaf hsome htyped ho hp

end

/-! ## Loading -/

/-- **Settings from layers, field by field.** Layers of the shape of settings
fail to load exactly if some policy has a required claim of which no layer says
the type. Otherwise the policies are those of all layers, and every field is
what the topmost layer says that says anything about it. -/
theorem Stack.load_of_wellShaped {s : Stack} (h : s.WellShaped) :
    ((∃ e, s.load = .error e) ↔ Untyped s.trees) ∧ ∀ c, s.load = .ok c → c.Layered s.trees := by
  obtain ⟨m, hload, hadmits, hordered, hleaf, hsome⟩ := merged_of_wellShaped h
  have hok : ∀ c, s.load = .ok c ↔ m.ClaimsTyped ∧ c = Settings.ofTree m := by
    intro c
    rw [hload, settings_eq_ok_iff, Layers.readSettings_eq_ok_iff_of_admits hadmits hordered]
  have htyped : m.ClaimsTyped ↔ ¬ Untyped s.trees := by
    have hclaim : ∀ n, (m.at? ["policies", n, "allow_claim"]).isSome = true ↔
        Anywhere ["policies", n, "allow_claim"] s.trees := fun n =>
      (hsome _).trans (or_iff_left Bool.false_ne_true)
    have htype : ∀ n, (m.at? ["policies", n, "allow_claim", "type"]).isSome = true ↔
        Anywhere ["policies", n, "allow_claim", "type"] s.trees := fun n =>
      (hsome _).trans (or_iff_left Bool.false_ne_true)
    rw [Tree.claimsTyped_iff hordered]
    simp only [hclaim, htype, Untyped, not_exists, not_and, Classical.not_not]
  constructor
  · have herror : (∃ e, s.load = .error e) ↔ ¬ m.ClaimsTyped := by
      constructor
      · rintro ⟨e, he⟩ ht
        rw [(hok _).2 ⟨ht, rfl⟩] at he
        cases he
      · intro hno
        cases hl : s.load with
        | error e => exact ⟨e, rfl⟩
        | ok c => exact absurd ((hok c).1 hl).1 hno
    rw [herror, htyped, Classical.not_not]
  · intro c hc
    obtain ⟨ht, rfl⟩ := (hok c).1 hc
    exact Settings.layered_ofTree hleaf hsome ht hordered

/-- A claim that is put together from two layers. -/
def Stack.scattered : Stack where
  project := some (Text.toBytes "policies.ops.allow_claim.values = ['eng']")
  environment := [("WARDEN_POLICIES__OPS__ALLOW_CLAIM__TYPE", "dept")]

theorem Stack.load_scattered : scattered.WellShaped ∧ (∃ c, scattered.load = .ok c) ∧
    ∀ c, scattered.load = .ok c → c.Layered scattered.trees := by
  have h : scattered.WellShaped := {
    explicit := by decide +kernel
    environment := {
      plain := by decide +kernel
      admits := by decide +kernel
      single := by decide +kernel }
    personal := by decide +kernel
    project := by decide +kernel
    user := by decide +kernel }
  have hok : scattered.load.isOk = true := by decide +kernel
  refine ⟨h, ?_, (load_of_wellShaped h).2⟩
  cases hl : scattered.load with
  | error e => rw [hl] at hok; cases hok
  | ok c => exact ⟨c, rfl⟩

end AccessPolicy
