/-
What values are encoded to is one of their spellings.

The tree of a value may be rendered in any representation of documents that has
something for each tree (`Forms.Renders`): as itself, or as the draft of its
JSON text. For all kinds of data, reading and encoding come together in
`Kind.faithful_all`.
-/
import AccessPolicy.Layers.KeyPath
import AccessPolicy.Proofs.JsonText
import AccessPolicy.Proofs.SpelledData

namespace AccessPolicy

theorem NameMap.find_eq_none_iff_notMem {α : Type} {k : String} {l : List (String × α)} :
    NameMap.find k l = none ↔ k ∉ l.map (·.1) := by
  rw [find_eq_none_iff, List.mem_map, not_exists]
  exact forall_congr' fun _ => not_and.symm

theorem NameMap.find_append {α : Type} (k : String) (l l' : List (String × α)) :
    NameMap.find k (l ++ l') = (NameMap.find k l).or (NameMap.find k l') := by
  induction l with
  | nil => rfl
  | cons e l ih =>
    obtain ⟨k', v⟩ := e
    by_cases hk : k = k' <;> simp [NameMap.find, hk, ih]

theorem find_optionalEntry {α : Type} (k key : String) (toTree : α → Tree) (o : Option α) :
    NameMap.find k (optionalEntry key toTree o) = if k = key then o.map toTree else none := by
  cases o <;> simp [optionalEntry, NameMap.find]

theorem optionalEntry_keys {α : Type} (key : String) (toTree : α → Tree) (o : Option α) :
    ((optionalEntry key toTree o).map (·.1)).Sublist [key] := by
  cases o <;> simp [optionalEntry]

/-! ## Rendering -/

/-- Each tree is rendered as a value of its own kind. -/
structure Forms.Renders {ν : Type} (N : Forms ν) (render : Tree → ν) : Prop where
  null : N.IsNull (render .null)
  text : ∀ s, N.IsText s (render (.text s))
  bool : ∀ b, N.IsBool b (render (.bool b))
  list : ∀ ts, N.IsList (ts.map render) (render (.list ts))
  table : ∀ es, N.IsObject (es.map fun e => (e.1, render e.2)) (render (.table es))
  value : ∀ t, N.IsValue (render t)

theorem Forms.tree_renders : Forms.tree.Renders id where
  null := rfl
  text _ := rfl
  bool _ := rfl
  list ts := congrArg Tree.list ts.map_id.symm
  table es := congrArg Tree.table es.map_id.symm
  value _ := trivial

section

variable {ν α : Type} {N : Forms ν} {render : Tree → ν} (hN : N.Renders render)

/-- A field is spelled by what is found under its name. -/
def FieldForm.Found (f : FieldForm ν) (render : Tree → ν) (es : List (String × Tree)) : Prop :=
  match NameMap.find f.name es with
  | none => f.Omittable
  | some t => f.Spells (render t)

theorem FieldForm.found_of_some {f : FieldForm ν} {es : List (String × Tree)} {t : Tree}
    (h : NameMap.find f.name es = some t) (ht : f.Spells (render t)) : f.Found render es := by
  unfold Found
  rwa [h]

theorem FieldForm.found_of_none {f : FieldForm ν} {es : List (String × Tree)}
    (h : NameMap.find f.name es = none) (hf : f.Omittable) : f.Found render es := by
  unfold Found
  rwa [h]

theorem FieldForm.Found.in {f : FieldForm ν} {es : List (String × Tree)}
    (hes : (es.map (·.1)).Nodup) (h : f.Found render es) :
    f.In (es.map fun e => (e.1, render e.2)) := by
  have hkeys : (es.map fun e => (e.1, render e.2)).map (·.1) = es.map (·.1) := by
    rw [List.map_map]
    rfl
  unfold Found at h
  constructor
  · rw [hkeys]
    exact List.nodup_iff_count_le_one.1 hes _
  · intro e he hname
    obtain ⟨⟨k, t⟩, ht, rfl⟩ := List.mem_map.1 he
    cases hname
    rw [NameMap.find_eq_some_of_nodup hes ht] at h
    exact h
  · intro hmem
    rw [hkeys] at hmem
    rw [NameMap.find_eq_none_iff_notMem.2 hmem] at h
    exact h

include hN

/-- A table whose keys are all different spells a record if it has the fields. -/
theorem Forms.Renders.spellsRecord {fields : List (FieldForm ν)} {es : List (String × Tree)}
    (hes : (es.map (·.1)).Nodup) (h : ∀ f ∈ fields, f.Found render es) :
    SpellsRecord N fields (render (.table es)) := by
  refine .inl ⟨_, hN.table es, fun f hf => (h f hf).in hes, fun e he _ => ?_⟩
  obtain ⟨e', -, rfl⟩ := List.mem_map.1 he
  exact hN.value e'.2

theorem Forms.Renders.spellsItems {Spells : α → ν → Prop} (toTree : α → Tree)
    (h : ∀ a, Spells a (render (toTree a))) (as : List α) :
    SpellsItems N Spells as (render (.list (as.map toTree))) := by
  refine ⟨_, hN.list _, ?_⟩
  rw [List.map_map, List.forall₂_map_right_iff]
  exact List.forall₂_same.2 fun a _ => h a

theorem Forms.Renders.spellsNames (s : NameSet) : SpellsNames N s (render s.toTree) :=
  ⟨s.toList, hN.spellsItems Tree.text hN.text s.toList, fun _ => Iff.rfl⟩

theorem Forms.Renders.spellsMap {Spells : α → ν → Prop} (toTree : α → Tree)
    (h : ∀ a, Spells a (render (toTree a))) (m : NameMap α) :
    SpellsMap N Spells m (render (.table (m.toList.map fun e => (e.1, toTree e.2)))) := by
  refine ⟨_, hN.table _, ?_, fun e he => ?_⟩
  · rw [List.map_map, List.map_map]
    exact .refl _
  · rw [List.map_map] at he
    obtain ⟨⟨k, a⟩, ha, rfl⟩ := List.mem_map.1 he
    exact ⟨a, NameMap.get?_eq_some.2 ha, h a⟩

/-! ## Values -/

theorem Claim.spells_toTree (c : Claim) : c.Spells N (render c.toTree) := by
  refine hN.spellsRecord (show ["type", "values"].Nodup by decide) ?_
  simp only [Claim.forms, List.forall_mem_cons]
  exact ⟨hN.text _, hN.spellsNames _, by simp⟩

theorem HeldClaim.spells_toTree (c : HeldClaim) : c.Spells N (render c.toTree) := by
  refine hN.spellsRecord (show ["type", "value"].Nodup by decide) ?_
  simp only [HeldClaim.forms, List.forall_mem_cons]
  exact ⟨hN.text _, hN.text _, by simp⟩

theorem Identity.spells_toTree (i : Identity) : i.Spells N (render i.toTree) := by
  refine hN.spellsRecord
    (show ["user_id", "authenticated", "roles", "claims"].Nodup by decide) ?_
  simp only [Identity.forms, List.forall_mem_cons]
  refine ⟨?_, hN.bool _, hN.spellsNames _,
    hN.spellsItems HeldClaim.toTree (HeldClaim.spells_toTree hN) _, by simp⟩
  show SpellsOption N N.IsText i.userId (render _)
  cases i.userId with
  | none => exact hN.null
  | some u => exact hN.text u

theorem Logging.spells_toTree (l : Logging) : l.Spells N (render l.toTree) := by
  refine hN.spellsRecord (show ["level", "audit"].Nodup by decide) ?_
  simp only [Logging.forms, List.forall_mem_cons]
  exact ⟨hN.text _, hN.bool _, by simp⟩

omit hN in
theorem Rule.keys_toTree (r : Rule) : (r.toTree.entries.map (·.1)).Nodup := by
  have hsub : (r.toTree.entries.map (·.1)).Sublist (["allow_roles", "allow_users"] ++ ["deny_roles"]
      ++ ["deny_users"] ++ ["allow_claim"] ++ ["allow_claims"]) := by
    simp only [Rule.toTree, Tree.entries, List.map_append]
    exact ((((List.Sublist.refl _).append (optionalEntry_keys _ _ _)).append
      (optionalEntry_keys _ _ _)).append (optionalEntry_keys _ _ _)).append
      (optionalEntry_keys _ _ _)
  exact hsub.nodup (by decide)

omit hN in
/-- An optional field is found if it has a value, and may be left out if not. -/
theorem FieldForm.found_option {Spells : α → ν → Prop} {toTree : α → Tree}
    (h : ∀ a, Spells a (render (toTree a))) {name : String} {o : Option α}
    {es : List (String × Tree)} (hfind : NameMap.find name es = o.map toTree) :
    (FieldForm.withDefault name (SpellsOption N Spells) none o).Found render es := by
  cases o with
  | none => exact found_of_none hfind rfl
  | some a => exact found_of_some hfind (h a)

theorem Rule.spells_toTree (r : Rule) : r.Spells N (render r.toTree) := by
  refine hN.spellsRecord r.keys_toTree ?_
  simp only [Rule.forms, List.forall_mem_cons]
  refine ⟨hN.spellsNames _, hN.spellsNames _, ?_, ?_, ?_, ?_, by simp⟩
  · refine FieldForm.found_option hN.spellsNames ?_
    simp [NameMap.find_append, find_optionalEntry, NameMap.find]
  · refine FieldForm.found_option hN.spellsNames ?_
    simp [NameMap.find_append, find_optionalEntry, NameMap.find]
  · refine FieldForm.found_option (Claim.spells_toTree hN) ?_
    simp [NameMap.find_append, find_optionalEntry, NameMap.find]
  · refine FieldForm.found_option (hN.spellsItems Claim.toTree (Claim.spells_toTree hN)) ?_
    simp [NameMap.find_append, find_optionalEntry, NameMap.find]

omit hN in
theorem PolicySet.toTree_eq (s : PolicySet) :
    s.toTree = .table (s.toList.map fun e => (e.1, e.2.elim .null Rule.toTree)) := by
  refine congrArg Tree.table (List.map_congr_left fun e _ => ?_)
  obtain ⟨name, o⟩ := e
  cases o <;> rfl

theorem PolicySet.spells_toTree (s : PolicySet) : s.Spells N (render s.toTree) := by
  rw [s.toTree_eq]
  refine hN.spellsMap (fun o => o.elim .null Rule.toTree) (fun o => ?_) s.entries
  cases o with
  | none => exact hN.null
  | some r => exact r.spells_toTree hN

theorem Settings.spells_toTree (s : Settings) : s.Spells N (render s.toTree) := by
  refine hN.spellsRecord (show ["locked", "logging", "policies"].Nodup by decide) ?_
  simp only [Settings.forms, List.forall_mem_cons]
  exact ⟨hN.spellsNames _, s.logging.spells_toTree hN,
    hN.spellsMap Rule.toTree (Rule.spells_toTree hN) _, by simp⟩

end

/-! ## JSON texts -/

namespace Json

theorem Draft.ofTrees_eq_map (ts : List Tree) : Draft.ofTrees ts = ts.map .ofTree := by
  induction ts with
  | nil => rfl
  | cons t ts ih => rw [ofTrees, ih, List.map_cons]

theorem Draft.ofEntries_eq_map (es : List (String × Tree)) :
    Draft.ofEntries es = es.map fun e => (.ok e.1, .ofTree e.2) := by
  induction es with
  | nil => rfl
  | cons e es ih => rw [ofEntries, ih, List.map_cons]

mutual
theorem Draft.whole_ofTree : ∀ t : Tree, (Draft.ofTree t).Whole
  | .null => .null
  | .bool b => .bool b
  | .integer _ | .float _ => .number _
  | .text _ => .text _
  | .list ts => .list (whole_ofTrees ts)
  | .table es => .object (whole_ofEntries es)

theorem Draft.whole_ofTrees : ∀ ts : List Tree, ∀ d ∈ Draft.ofTrees ts, d.Whole
  | [] => by simp [ofTrees]
  | t :: ts => by
    rw [ofTrees, List.forall_mem_cons]
    exact ⟨whole_ofTree t, whole_ofTrees ts⟩

theorem Draft.whole_ofEntries : ∀ es : List (String × Tree), ∀ e ∈ Draft.ofEntries es, e.2.Whole
  | [] => by simp [ofEntries]
  | (_, t) :: es => by
    rw [ofEntries, List.forall_mem_cons]
    exact ⟨whole_ofTree t, whole_ofEntries es⟩
end

theorem draft_renders : Forms.draft.Renders Draft.ofTree where
  null := rfl
  text _ := rfl
  bool _ := rfl
  list ts := by
    rw [Draft.ofTree, Draft.ofTrees_eq_map]
    rfl
  table es := by
    rw [Draft.ofTree, Draft.ofEntries_eq_map]
    show _ = Draft.object (List.map _ (List.map _ es)) _
    rw [List.map_map]
    rfl
  value := Draft.whole_ofTree

end Json

namespace Tree

theorem numberFreeItems_map {α : Type} {toTree : α → Tree} (h : ∀ a, (toTree a).numberFree = true)
    (l : List α) : numberFreeItems (l.map toTree) = true := by
  induction l with
  | nil => rfl
  | cons a l ih => rw [List.map_cons, numberFreeItems, h, ih, Bool.and_self]

theorem numberFreeEntries_map {α : Type} (toTree : α → Tree)
    (h : ∀ a, (toTree a).numberFree = true) (l : List (String × α)) :
    numberFreeEntries (l.map fun e => (e.1, toTree e.2)) = true := by
  induction l with
  | nil => rfl
  | cons e l ih => rw [List.map_cons, numberFreeEntries, h, ih, Bool.and_self]

theorem numberFreeEntries_append (es es' : List (String × Tree)) :
    numberFreeEntries (es ++ es') = (numberFreeEntries es && numberFreeEntries es') := by
  induction es with
  | nil => rfl
  | cons e es ih =>
    obtain ⟨k, t⟩ := e
    rw [List.cons_append, numberFreeEntries, numberFreeEntries, ih, Bool.and_assoc]

theorem numberFreeEntries_optionalEntry {α : Type} {toTree : α → Tree}
    (h : ∀ a, (toTree a).numberFree = true) (key : String) (o : Option α) :
    numberFreeEntries (optionalEntry key toTree o) = true := by
  cases o <;> simp [optionalEntry, numberFreeEntries, h]

end Tree

open AccessPolicy.Tree

theorem NameSet.numberFree_toTree (s : NameSet) : s.toTree.numberFree = true :=
  numberFreeItems_map (fun _ => rfl) s.toList

theorem Claim.numberFree_toTree (c : Claim) : c.toTree.numberFree = true := by
  simp [Claim.toTree, numberFree, numberFreeEntries, c.values.numberFree_toTree]

theorem HeldClaim.numberFree_toTree (c : HeldClaim) : c.toTree.numberFree = true := rfl

theorem Identity.numberFree_toTree (i : Identity) : i.toTree.numberFree = true := by
  have hclaims := numberFreeItems_map HeldClaim.numberFree_toTree i.claims
  cases hi : i.userId <;>
    simp [Identity.toTree, hi, numberFree, numberFreeEntries, i.roles.numberFree_toTree, hclaims]

theorem Rule.numberFree_toTree (r : Rule) : r.toTree.numberFree = true := by
  have hclaims : ∀ cs : List Claim, (Tree.list (cs.map Claim.toTree)).numberFree = true :=
    numberFreeItems_map Claim.numberFree_toTree
  simp [Rule.toTree, numberFree, numberFreeEntries_append, numberFreeEntries,
    NameSet.numberFree_toTree, numberFreeEntries_optionalEntry Claim.numberFree_toTree,
    numberFreeEntries_optionalEntry NameSet.numberFree_toTree, numberFreeEntries_optionalEntry hclaims]

theorem PolicySet.numberFree_toTree (s : PolicySet) : s.toTree.numberFree = true := by
  rw [s.toTree_eq]
  refine numberFreeEntries_map (fun o => o.elim .null Rule.toTree) (fun o => ?_) s.toList
  cases o with
  | none => rfl
  | some r => exact r.numberFree_toTree

theorem Logging.numberFree_toTree (l : Logging) : l.toTree.numberFree = true := rfl

theorem Settings.numberFree_toTree (s : Settings) : s.toTree.numberFree = true := by
  have hpolicies := numberFreeEntries_map Rule.toTree Rule.numberFree_toTree s.policies.toList
  simp [Settings.toTree, numberFree, numberFreeEntries, s.locked.numberFree_toTree,
    s.logging.numberFree_toTree, hpolicies]

/-! ## Kinds of data -/

/-- A kind of data: how it is spelled, read and encoded. -/
structure Kind (α : Type) where
  Spells : {ν : Type} → Forms ν → α → ν → Prop
  read : {ν : Type} → Format ν → ν → Except ReadError α
  toTree : α → Tree

namespace Kind

/-- Required claims. -/
def claim : Kind Claim := ⟨Claim.Spells, Format.readClaim, Claim.toTree⟩

/-- Held claims. -/
def heldClaim : Kind HeldClaim := ⟨HeldClaim.Spells, Format.readHeldClaim, HeldClaim.toTree⟩

/-- Identities. -/
def identity : Kind Identity := ⟨Identity.Spells, Format.readIdentity, Identity.toTree⟩

/-- Rules. -/
def rule : Kind Rule := ⟨Rule.Spells, Format.readRule, Rule.toTree⟩

/-- Named rules. -/
def policySet : Kind PolicySet := ⟨PolicySet.Spells, Format.readPolicySet, PolicySet.toTree⟩

/-- Logging settings. -/
def logging : Kind Logging := ⟨Logging.Spells, Format.readLogging, Logging.toTree⟩

/-- Settings. -/
def settings : Kind Settings := ⟨Settings.Spells, Format.readSettings, Settings.toTree⟩

/-- Every spelling is read to the value it spells, be it a JSON value or a JSON
text with nothing but white space after it, and to no other. What a value is
encoded to is one of its spellings, as a value and as a text on one line or
several. -/
structure Faithful {α : Type} (k : Kind α) : Prop where
  ofValue : ∀ a t, k.Spells .tree a t → k.read Json.valueFormat t = .ok a
  ofText : ∀ a s d rest, Json.Draft.ofText s = (d, some rest) → Json.skipBlanks rest = [] →
    k.Spells .draft a d → Json.ofText (k.read Json.textFormat) s = .ok a
  apart : ∀ a b, a ≠ b → ∀ t, k.Spells .tree a t → ¬ k.Spells .tree b t
  toTree : ∀ a, k.Spells .tree a (k.toTree a)
  print : ∀ a, ∀ layout ∈ [Json.compact, Json.pretty],
    ∃ d, Json.Draft.ofText (Json.print layout 0 (k.toTree a)) = (d, some []) ∧ k.Spells .draft a d

theorem faithful_of {α : Type} {k : Kind α}
    (hread : ∀ {ν : Type} {F : Format ν} {N : Forms ν}, F.Follows N →
      Format.Reads F (k.read F) (k.Spells N))
    (hencode : ∀ {ν : Type} {N : Forms ν} {render : Tree → ν}, N.Renders render →
      ∀ a, k.Spells N a (render (k.toTree a)))
    (hnumber : ∀ a, (k.toTree a).numberFree = true) : k.Faithful where
  ofValue _ _ h := (hread Json.valueFormat_follows h).2
  ofText a s d rest hs hrest h := by
    rw [Json.ofText, hs]
    show (do
      let value ← k.read Json.textFormat d
      if (Json.skipBlanks rest).isEmpty then return value else throw ReadError.malformed) = _
    rw [(hread Json.textFormat_follows h).2, hrest]
    rfl
  apart a b hab t ha hb := by
    have hsame := (hread Json.valueFormat_follows ha).2.symm.trans (hread Json.valueFormat_follows hb).2
    exact hab (Except.ok.inj hsame)
  toTree a := hencode Forms.tree_renders a
  print a layout hlayout := by
    have hplain : layout.Plain := by
      rcases List.mem_cons.1 hlayout with rfl | hlayout
      · exact Json.compact_plain
      · rw [List.mem_singleton.1 hlayout]
        exact Json.pretty_plain
    exact ⟨_, Json.Draft.ofText_print hplain (hnumber a), hencode Json.draft_renders a⟩

/-- **Every spelling of a value is read to it, and its encoding is a spelling.** -/
theorem faithful_all : claim.Faithful ∧ heldClaim.Faithful ∧ identity.Faithful ∧ rule.Faithful ∧
    policySet.Faithful ∧ logging.Faithful ∧ settings.Faithful :=
  ⟨faithful_of (fun h => h.reads_claim) Claim.spells_toTree Claim.numberFree_toTree,
    faithful_of (fun h => h.reads_heldClaim) HeldClaim.spells_toTree HeldClaim.numberFree_toTree,
    faithful_of (fun h => h.reads_identity) Identity.spells_toTree Identity.numberFree_toTree,
    faithful_of (fun h => h.reads_rule) Rule.spells_toTree Rule.numberFree_toTree,
    faithful_of (fun h => h.reads_policySet) PolicySet.spells_toTree PolicySet.numberFree_toTree,
    faithful_of (fun h => h.reads_logging) Logging.spells_toTree Logging.numberFree_toTree,
    faithful_of (fun h => h.reads_settings) Settings.spells_toTree Settings.numberFree_toTree⟩

end Kind

end AccessPolicy
