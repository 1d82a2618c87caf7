/-
A variable that sets a list of names in a policy sets that list and nothing else
(`Stack.load_withList`).

Its branch goes over what the layers come to without it, as long as nothing but
tables stands in its way there. Other variables may be anything that is not on
this way; of the files it has to be asked (`Layer.Open`), since a rule may also
be written as a list of the values of its fields, which the branch would replace.
-/
import AccessPolicy.Proofs.Branches
import AccessPolicy.Proofs.Merging
import AccessPolicy.Proofs.UnsetVariables
import AccessPolicy.Proofs.VariableNames

namespace AccessPolicy

/-! ## Changes of one list -/

/-- A field of a rule that is a list of names. -/
inductive NameField where
  | allowRoles
  | allowUsers
  | denyRoles
  | denyUsers
deriving DecidableEq

/-- The key of the field. -/
def NameField.key : NameField → String
  | allowRoles => "allow_roles"
  | allowUsers => "allow_users"
  | denyRoles => "deny_roles"
  | denyUsers => "deny_users"

/-- The rule with other names in a field. -/
def Rule.putNames (r : Rule) (names : NameSet) : NameField → Rule
  | .allowRoles => { r with allowRoles := names }
  | .allowUsers => { r with allowUsers := names }
  | .denyRoles => { r with denyRoles := some names }
  | .denyUsers => { r with denyUsers := some names }

/-- The settings with other names in a field of a policy. A policy that is not
there is made. -/
def Settings.putNames (c : Settings) (policy : String) (field : NameField) (names : NameSet) :
    Settings :=
  { c with policies :=
      c.policies.insert policy (((c.policies.get? policy).getD {}).putNames names field) }

/-! ## Reading one list more -/

namespace Format

variable {ν β : Type} {read : ν → Except ReadError β} {default b : β} {key k : String} {t : ν}
  {es : List (String × ν)}

theorem EntryReads.place_of_ne (h : EntryReads read default key es b) (hne : key ≠ k) :
    EntryReads read default key (NameMap.place k t es) b := by
  rw [EntryReads, NameMap.find_place, if_neg hne]
  exact h

theorem entryReads_place : EntryReads read default k (NameMap.place k t es) b ↔ read t = .ok b := by
  rw [EntryReads, NameMap.find_place, if_pos rfl]

end Format

namespace Layers

variable {es : List (String × Tree)}

theorem readNames_texts (l : List String) : format.readNames (.texts l) = .ok (.ofList l) := by
  have hadmits : Shape.names.admits (.texts l) = true := by
    refine Shape.admits_list_iff.2 fun t ht => ?_
    obtain ⟨s, -, rfl⟩ := List.mem_map.1 ht
    rfl
  rw [readNames_of_admits hadmits, Tree.names, Tree.texts, Tree.items, List.map_map]
  exact congrArg (Except.ok ∘ NameSet.ofList) (List.map_id l)

theorem ruleReads_place (l : List String) (field : NameField) {r : Rule}
    (h : Format.RuleReads format es r) :
    Format.RuleReads format (NameMap.place field.key (.texts l) es) (r.putNames (.ofList l) field) := by
  have hnames := readNames_texts l
  have hoption : format.readOption format.readNames (.texts l) = .ok (some (.ofList l)) :=
    (readOption_eq_ok_iff (t := .texts l) (by simp [Tree.texts])).2 ⟨_, hnames, rfl⟩
  obtain ⟨hroles, husers, hdroles, hdusers, hclaim, hclaims⟩ := h
  cases field with
  | allowRoles => exact ⟨Format.entryReads_place.2 hnames, husers.place_of_ne (by decide),
      hdroles.place_of_ne (by decide), hdusers.place_of_ne (by decide),
      hclaim.place_of_ne (by decide), hclaims.place_of_ne (by decide)⟩
  | allowUsers => exact ⟨hroles.place_of_ne (by decide), Format.entryReads_place.2 hnames,
      hdroles.place_of_ne (by decide), hdusers.place_of_ne (by decide),
      hclaim.place_of_ne (by decide), hclaims.place_of_ne (by decide)⟩
  | denyRoles => exact ⟨hroles.place_of_ne (by decide), husers.place_of_ne (by decide),
      Format.entryReads_place.2 hoption, hdusers.place_of_ne (by decide),
      hclaim.place_of_ne (by decide), hclaims.place_of_ne (by decide)⟩
  | denyUsers => exact ⟨hroles.place_of_ne (by decide), husers.place_of_ne (by decide),
      hdroles.place_of_ne (by decide), Format.entryReads_place.2 hoption,
      hclaim.place_of_ne (by decide), hclaims.place_of_ne (by decide)⟩

theorem readMap_place (ho : (Tree.table es).Ordered) {m : NameMap Rule} {name : String} {t : Tree}
    {r : Rule} (hto : t.Ordered) (hm : format.readMap format.readRule (.table es) = .ok m)
    (hr : format.readRule t = .ok r) :
    format.readMap format.readRule (.table (NameMap.place name t es)) = .ok (m.insert name r) := by
  rw [readMap_eq_ok_iff_get? ho] at hm
  rw [readMap_eq_ok_iff_get? (ho.place name hto)]
  intro k
  rw [NameMap.find_place, NameMap.get?_insert]
  by_cases hk : k = name
  · rw [if_pos hk, if_pos hk, Option.map_some, Option.map_some, hr]
  · rw [if_neg hk, if_neg hk]
    exact hm k

/-- Where an entry is missing, an empty table is read to the same. -/
theorem reads_entries {α : Type} {read : Tree → Except ReadError α} {default a : α} {key : String}
    (h : Format.EntryReads read default key es a) (hdefault : read (.table []) = .ok default)
    (htable : ∀ u, NameMap.find key es = some u → ∃ us, u = .table us) :
    read (.table ((NameMap.find key es).getD .null).entries) = .ok a := by
  rw [Format.EntryReads] at h
  cases hu : NameMap.find key es with
  | none =>
    rw [hu] at h
    rw [h]
    exact hdefault
  | some u =>
    rw [hu] at h
    obtain ⟨us, rfl⟩ := htable u hu
    exact h

theorem entryReads_of_readMap (ho : (Tree.table es).Ordered) {m : NameMap Rule}
    (h : format.readMap format.readRule (.table es) = .ok m) (name : String) :
    Format.EntryReads format.readRule {} name es ((m.get? name).getD {}) := by
  have heq := (readMap_eq_ok_iff_get? ho).1 h name
  rw [Format.EntryReads]
  cases hr : NameMap.find name es with
  | none =>
    rw [hr, Option.map_none, eq_comm, Option.map_eq_none_iff] at heq
    rw [heq]
    rfl
  | some t =>
    rw [hr, Option.map_some, eq_comm, Option.map_eq_some_iff] at heq
    obtain ⟨r, hget, hread⟩ := heq
    rw [hget]
    exact hread.symm

/-! ### With the list merged in -/

variable {t : Tree} (ho : t.Ordered) (policy : String) (field : NameField) (l : List String)

include ho

theorem readRule_merge_list {r : Rule} (h : format.readRule (.table t.entries) = .ok r) :
    format.readRule (t.merge (.branch [field.key] (.texts l))) =
      .ok (r.putNames (.ofList l) field) := by
  have hlist : (Tree.texts l).Ordered := .texts l
  rw [Tree.merge_branch_cons, Tree.branch, Tree.merge_scalar (by simp [Tree.texts]),
    readRule_table_iff (ho.tableEntries.place _ hlist)]
  exact ruleReads_place l field ((readRule_table_iff ho.tableEntries).1 h)

theorem readMap_merge_list {m : NameMap Rule}
    (h : format.readMap format.readRule (.table t.entries) = .ok m)
    (hopen : Tree.Open [policy, field.key] t.entries) :
    format.readMap format.readRule (t.merge (.branch [policy, field.key] (.texts l))) =
      .ok (m.insert policy (((m.get? policy).getD {}).putNames (.ofList l) field)) := by
  have hpart := ho.tableEntries.part policy
  have hrule := reads_entries (entryReads_of_readMap ho.tableEntries h policy) rfl
    fun u hu => (hopen (by simp) u hu).imp fun _ h => h.1
  rw [Tree.merge_branch_cons]
  exact readMap_place ho.tableEntries (hpart.merge (.branch _ (.texts l))) h
    (readRule_merge_list hpart field l hrule)

/-- A list that is merged in where its way is open is read into its field. -/
theorem readSettings_merge_list {c : Settings}
    (h : format.readSettings (.table t.entries) = .ok c)
    (hopen : Tree.Open ["policies", policy, field.key] t.entries) :
    format.readSettings (t.merge (.branch ["policies", policy, field.key] (.texts l))) =
      .ok (c.putNames policy field (.ofList l)) := by
  have hpart := ho.tableEntries.part "policies"
  have hbranch : (Tree.branch [policy, field.key] (.texts l)).Ordered := .branch _ (.texts l)
  have hplace := ho.tableEntries.place "policies" (hpart.merge hbranch)
  have hreads := (readSettings_table_iff ho.tableEntries).1 h
  have hpolicies := reads_entries hreads.policies rfl
    fun u hu => (hopen (by simp) u hu).imp fun _ h => h.1
  rw [Tree.merge_branch_cons, readSettings_table_iff hplace]
  exact ⟨hreads.locked.place_of_ne (by decide), hreads.logging.place_of_ne (by decide),
    Format.entryReads_place.2 (readMap_merge_list hpart policy field l hpolicies hopen.part)⟩

end Layers

/-! ## Files with open ways -/

namespace KeyPath

variable {v : Tree}

/-- What is a table after a change, though there was nothing before, is a table
after that change in any case. -/
theorem exists_change_table : ∀ {steps : List PathStep} {es : List (String × Tree)},
    change (fun old => old.merge v) steps .null = .table es →
    ∀ t, ∃ us, change (fun old => old.merge v) steps t = .table us
  | [], es, h, t => by
    cases v with
    | table vs => exact ⟨_, Tree.merge_table t vs⟩
    | _ =>
      rw [change, Tree.merge_scalar (by simp)] at h
      cases h
  | .key _ :: _, _, _, _ => ⟨_, rfl⟩
  | .index _ :: _, _, h, _ => by cases h

/-- A change that by itself leaves a way open leaves it open in any tree. -/
theorem change_open (hv : v.Ordered) : ∀ {p : List String} {steps : List PathStep} {t : Tree},
    Tree.Open p (change (fun old => old.merge v) steps .null).entries → Tree.Open p t.entries →
    Tree.Open p (change (fun old => old.merge v) steps t).entries
  | [], _, _, _, _ => trivial
  | k :: ks, [], t, h, ht => by
    cases v with
    | table vs =>
      rw [change, hv.merge_of_entries_nil (x := .null) rfl] at h
      exact ht.merge h hv
    | _ =>
      rw [change, Tree.merge_scalar (by simp)]
      exact Tree.Open.nil _
  | k :: ks, .key name :: steps, t, h, ht => by
    rw [change, Tree.entries_table] at h ⊢
    intro hks u hu
    rw [NameMap.find_place] at hu
    by_cases hk : k = name
    · subst hk
      rw [if_pos rfl] at hu
      obtain ⟨es, hes, hopen⟩ := h hks _ (by rw [NameMap.find_place, if_pos rfl])
      obtain ⟨us, hus⟩ := exists_change_table hes ((NameMap.find k t.entries).getD .null)
      have hopen' : Tree.Open ks (change (fun old => old.merge v) steps .null).entries := by
        rw [show change _ steps .null = .table es from hes]
        exact hopen
      have hpart := change_open hv hopen' ht.part
      rw [hus] at hpart hu
      exact ⟨us, (Option.some.inj hu).symm, hpart⟩
    · rw [if_neg hk] at hu
      exact ht hks u hu
  | k :: ks, .index _ :: _, _, _, _ => Tree.Open.nil _

end KeyPath

namespace Layer

/-- Each entry of the layer, taken by itself, has tables on the way along the
path, as far as it has anything there. -/
def Open (p : List String) (l : Layer) : Prop :=
  ∀ e ∈ l, Tree.Open p ((KeyPath.ofText e.1).set e.2 .null).entries

instance (p : List String) (l : Layer) : Decidable (Open p l) := List.decidableBAll _ _

theorem open_mergeOver {p : List String} : ∀ {l : Layer} {t : Tree}, Open p l →
    (∀ e ∈ l, e.2.Ordered) → Tree.Open p t.entries → Tree.Open p (mergeOver t l).entries
  | [], _, _, _, ht => ht
  | e :: l, t, h, ho, ht => by
    obtain ⟨he, hl⟩ := List.forall_mem_cons.1 h
    obtain ⟨hoe, hol⟩ := List.forall_mem_cons.1 ho
    exact open_mergeOver (t := (KeyPath.ofText e.1).set e.2 t) hl hol (KeyPath.change_open hoe he ht)

end Layer

/-! ## Variables -/

namespace Variables

/-- Whether the character may stand in the name of a policy that a variable
names: a small letter, a digit, an underscore or a dash. -/
def isNameChar (c : Char) : Bool := c.isLower || c.isDigit || c == '_' || c == '-'

theorem isNameChar_cases {c : Char} (h : isNameChar c = true) :
    ('a'.val ≤ c.val ∧ c.val ≤ 'z'.val) ∨ ('0'.val ≤ c.val ∧ c.val ≤ '9'.val) ∨ c = '_' ∨ c = '-' := by
  rw [isNameChar, Bool.or_eq_true, Bool.or_eq_true, Bool.or_eq_true, beq_iff_eq, beq_iff_eq, or_assoc,
    or_assoc] at h
  have hrange : ∀ {a b : Char}, (decide (c.val ≥ a.val) && decide (c.val ≤ b.val)) = true →
      a.val ≤ c.val ∧ c.val ≤ b.val := fun h =>
    ((Bool.and_eq_true _ _).mp h).imp of_decide_eq_true of_decide_eq_true
  exact h.imp hrange (Or.imp_left hrange)

theorem isNameChar_ascii {c : Char} (h : isNameChar c = true) : c.toNat < 0x80 := by
  rcases isNameChar_cases h with h | h | rfl | rfl
  · exact Nat.lt_of_le_of_lt (UInt32.le_iff_toNat_le.1 h.2) (by decide)
  · exact Nat.lt_of_le_of_lt (UInt32.le_iff_toNat_le.1 h.2) (by decide)
  · decide
  · decide

/-- Only a capital letter has another letter in lower case. -/
theorem isNameChar_toLower {c : Char} (h : isNameChar c = true) : c.toLower = c := by
  rcases isNameChar_cases h with h | h | rfl | rfl
  · refine dif_neg fun hcapital => absurd (UInt32.le_trans h.1 hcapital.2) (by decide)
  · refine dif_neg fun hcapital => absurd (UInt32.le_trans hcapital.1 h.2) (by decide)
  · decide
  · decide

theorem isKeyChar_of_isNameChar {c : Char} (h : isNameChar c = true) : KeyPath.isKeyChar c = true := by
  rw [isNameChar, Bool.or_eq_true, Bool.or_eq_true, Bool.or_eq_true] at h
  show (((c.isUpper || c.isLower) || c.isDigit) || c == '_' || c == '-') = true
  rcases h with ((h | h) | h) | h <;> simp [h]

/-- The text can be the name of a policy in the name of a variable. -/
structure IsPolicyName (policy : String) : Prop where
  chars : ∀ c ∈ policy.toList, isNameChar c = true
  word : IsWord policy.toList

variable {marker name policy : String} {field : NameField}

/-- The name of the variable for a field of a policy. -/
def listVariable (marker policy : String) (field : NameField) : String :=
  marker ++ "_POLICIES__" ++ policy ++ "__" ++ field.key

/-- The key that the variable sets. -/
def listPath (policy : String) (field : NameField) : List String := ["policies", policy, field.key]

theorem lowerCase_listVariable (hmarker : Text.IsAscii marker) (hpolicy : IsPolicyName policy) :
    (Text.lowerCase (listVariable marker policy field)).toList =
      (Text.lowerCase marker).toList ++ '_' :: ("__".intercalate (listPath policy field)).toList := by
  have hascii : Text.IsAscii (listVariable marker policy field) := by
    have hnameAscii : Text.IsAscii policy := fun c hc => isNameChar_ascii (hpolicy.chars c hc)
    refine (((hmarker.append ?_).append hnameAscii).append ?_).append ?_
    · decide +kernel
    · decide +kernel
    · cases field <;> decide +kernel
  have hlower : policy.toList.map Char.toLower = policy.toList :=
    (List.map_congr_left fun c hc => isNameChar_toLower (hpolicy.chars c hc)).trans (List.map_id _)
  have hlowerField : field.key.toList.map Char.toLower = field.key.toList := by
    cases field <;> decide
  have hopening : "_POLICIES__".toList.map Char.toLower = '_' :: "policies".toList ++ "__".toList := by
    decide
  have hunderscores : "__".toList.map Char.toLower = "__".toList := by decide
  rw [Text.lowerCase_of_ascii hascii, Text.lowerCase_of_ascii hmarker, listVariable, listPath, String.intercalate_cons_cons,
    String.intercalate_cons_cons, String.intercalate_singleton]
  simp only [String.toList_append, List.map_append, hlower, hlowerField, hopening, hunderscores,
    List.append_assoc, List.cons_append]

theorem forall_mem_listPath {P : String → Prop} (hfirst : P "policies") (hpolicy : P policy)
    (hfield : P field.key) : ∀ name ∈ listPath policy field, P name := by
  simp only [listPath, List.forall_mem_cons]
  exact ⟨hfirst, hpolicy, hfield, by simp⟩

/-- The key of the variable, in whatever case its name is written. -/
theorem key?_listVariable (hmarker : Text.IsAscii marker) (hpolicy : IsPolicyName policy)
    (hname : Text.lowerCase name = Text.lowerCase (listVariable marker policy field)) :
    key? marker name = some (".".intercalate (listPath policy field)) :=
  key?_of_words (hname ▸ lowerCase_listVariable hmarker hpolicy)
    (forall_mem_listPath (P := fun w => IsWord w.toList) (by decide +kernel) hpolicy.word
      (by cases field <;> decide +kernel))

theorem splitAt_listPath (hpolicy : IsPolicyName policy) :
    Text.splitAt '.' (".".intercalate (listPath policy field)) = listPath policy field := by
  refine Text.splitAt_intercalate rfl (List.cons_ne_nil _ _)
    (forall_mem_listPath (P := fun w => '.' ∉ w.toList) (by decide) (fun hdot => ?_)
      (by cases field <;> decide))
  exact absurd (hpolicy.chars '.' hdot) (by decide)

theorem isListKey_listPath (hpolicy : IsPolicyName policy) :
    isListKey (".".intercalate (listPath policy field)) = true := by
  have hlast : (listPath policy field).getLast? = some field.key := rfl
  rw [isListKey, lastName, splitAt_listPath hpolicy, hlast]
  cases field <;> decide

theorem IsPolicyName.isPlain (h : IsPolicyName policy) (hne : policy ≠ "") :
    KeyPath.isPlain policy = true := by
  simpa [KeyPath.isPlain, hne] using fun c hc => isKeyChar_of_isNameChar (h.chars c hc)

theorem isPlain_listPath (hpolicy : IsPolicyName policy) (hne : policy ≠ "") :
    ∀ part ∈ listPath policy field, KeyPath.isPlain part = true :=
  forall_mem_listPath (P := fun part => KeyPath.isPlain part = true) (by decide)
    (hpolicy.isPlain hne) (by cases field <;> decide)

/-- Without the name of a policy the key is no path. -/
theorem parse?_listPath_empty : KeyPath.parse? (".".intercalate (listPath "" field)) = none := by
  cases field <;> decide +kernel

/-! ## The variable among others -/

variable {before after : List Variable} {value : String}

/-- The other variables name paths by plain names, of which none leads to the
path, on from it, or to a part of the way there. -/
def Elsewhere (path : List String) (l : Layer) : Prop :=
  ∀ e ∈ l, (∀ part ∈ Text.splitAt '.' e.1, KeyPath.isPlain part = true) ∧
    Tree.Apart path (Text.splitAt '.' e.1)

instance (path : List String) (l : Layer) : Decidable (Elsewhere path l) :=
  List.decidableBAll _ _

theorem layer_middle {key : String} (hkey : key? marker name = some key) :
    layer marker (before ++ (name, value) :: after) =
      layer marker before ++ (key, given key value) :: layer marker after := by
  simp [layer, hkey]

theorem layer_append (before after : List Variable) :
    layer marker (before ++ after) = layer marker before ++ layer marker after :=
  List.filterMap_append

theorem plain_middle (hpolicy : IsPolicyName policy) (hne : policy ≠ "")
    (hkey : key? marker name = some (".".intercalate (listPath policy field)))
    (hothers : Elsewhere (listPath policy field) (layer marker (before ++ after))) :
    Plain marker (before ++ (name, value) :: after) := by
  intro e he
  rw [layer_middle hkey] at he
  rw [layer_append] at hothers
  rcases List.mem_append.1 he with he | he
  · exact (hothers e (List.mem_append_left _ he)).1
  · rcases List.mem_cons.1 he with rfl | he
    · rw [splitAt_listPath hpolicy]
      exact isPlain_listPath hpolicy hne
    · exact (hothers e (List.mem_append_right _ he)).1

/-- The list of the variable stands among those of the others. -/
theorem inOrder_middle (order : List KeyPath) (value : String) (hpolicy : IsPolicyName policy) (hne : policy ≠ "")
    (hkey : key? marker name = some (".".intercalate (listPath policy field)))
    (hothers : Elsewhere (listPath policy field) (layer marker (before ++ after))) :
    ∃ l l', inOrder order (listed marker (before ++ after)) = l ++ l' ∧
      inOrder order (listed marker (before ++ (name, value) :: after)) =
        l ++ (".".intercalate (listPath policy field), .texts (names value)) :: l' := by
  have hlist : isListKey (".".intercalate (listPath policy field)) = true := isListKey_listPath hpolicy
  have hsplit : Text.splitAt '.' (".".intercalate (listPath policy field)) = listPath policy field :=
    splitAt_listPath hpolicy
  have hplain : ∀ part ∈ listPath policy field, KeyPath.isPlain part = true :=
    isPlain_listPath hpolicy hne
  rw [← hsplit] at hplain
  generalize ".".intercalate (listPath policy field) = key at *
  have hlisted : listed marker (before ++ (name, value) :: after) =
      listed marker before ++ (key, .texts (names value)) :: listed marker after := by
    simp [listed, layer_middle hkey, hlist, given]
  have hlisted' : listed marker (before ++ after) = listed marker before ++ listed marker after := by
    simp [listed, layer_append]
  have hpath : ∀ e ∈ listed marker before ++ listed marker after,
      Layer.pathOf e ≠ Layer.pathOf (key, .texts (names value)) := by
    intro e he heq
    rw [← hlisted'] at he
    obtain ⟨hplain', hapart⟩ := hothers e (listed_subset e he)
    rw [KeyPath.ofText_injective hplain' hplain heq, hsplit] at hapart
    exact hapart.ne rfl
  obtain ⟨m, m', hwithout, hwith⟩ := lastOfEach_middle hpath
  obtain ⟨l, l', hwithout', hwith'⟩ :=
    arrange_middle Layer.pathOf order (key, .texts (names value)) m m'
  rw [inOrder, inOrder, hlisted, hlisted', hwithout, hwith]
  exact ⟨l, l', hwithout', hwith'⟩

/-- The list of the variable goes over the lists of the others. -/
theorem lists_middle (order : List KeyPath) (hpolicy : IsPolicyName policy) (hne : policy ≠ "")
    (hkey : key? marker name = some (".".intercalate (listPath policy field)))
    (hothers : Elsewhere (listPath policy field) (layer marker (before ++ after))) :
    lists order (listed marker (before ++ (name, value) :: after)) =
      (lists order (listed marker (before ++ after))).merge
        (.branch (listPath policy field) (.texts (names value))) := by
  have hsplit : Text.splitAt '.' (".".intercalate (listPath policy field)) = listPath policy field :=
    splitAt_listPath hpolicy
  obtain ⟨l, l', hwithout, hwith⟩ := inOrder_middle order value hpolicy hne hkey hothers
  have hafter : ∀ e ∈ l',
      Layer.Apart (".".intercalate (listPath policy field), .texts (names value)) e := by
    intro e he
    rw [Layer.Apart, hsplit]
    refine (hothers e (inOrder_subset order e ?_)).2
    rw [hwithout]
    exact List.mem_append_right _ he
  rw [lists_eq_overlay order fun e he => plain_middle hpolicy hne hkey hothers e (listed_subset e he),
    lists_eq_overlay order fun e he => (hothers e (listed_subset e he)).1, hwith,
    Layer.overlay_middle hafter, hwithout, Layer.branch, hsplit]

/-- A list does not change the single values. -/
theorem scalars_middle (order : List String) (hnone : scalarKey? marker name = none) :
    scalars order marker (before ++ (name, value) :: after) =
      scalars order marker (before ++ after) := by
  have hfilter := @scalars_filter marker (fun n => (scalarKey? marker n).isSome)
    (fun n hn => by simpa using hn) order
  rw [← hfilter (before ++ (name, value) :: after), ← hfilter (before ++ after)]
  simp [List.filter_append, hnone]

/-- The lists that variables set by paths of plain names are a layer whose keys
are plain names. -/
theorem exists_lists {environment : List Variable} (h : Plain marker environment)
    (order : List KeyPath) :
    ∃ es, lists order (listed marker environment) = .table es ∧
      (Tree.table es).Ordered ∧ ∀ e ∈ es, KeyPath.isPlain e.1 = true := by
  have hplain : ∀ e ∈ inOrder order (listed marker environment), ∀ part ∈ Text.splitAt '.' e.1,
      KeyPath.isPlain part = true := fun e he => h e (inOrder_subset _ e he)
  have hentries : ∀ e ∈ inOrder order (listed marker environment), e.2.Ordered := fun e he =>
    (layer_entries (inOrder_subset _ e he)).2
  have hnil : (Tree.table []).IsOrderedTable := ⟨.empty, [], rfl⟩
  obtain ⟨ho, es, hes⟩ := Layer.mergeOver_isOrderedTable _ hentries hnil
  rw [hes] at ho
  refine ⟨es, hes, ho, fun e he => ?_⟩
  have hfind : (NameMap.find e.1 es).isSome = true := by
    rw [(NameMap.find_eq_some ho.increasing).2 he]
    rfl
  have hroot := (Layer.isSome_find_mergeOver _ (.table []) e.1).1 (by rw [hes]; exact hfind)
  obtain ⟨e', he', hkey⟩ := hroot.resolve_right (by simp [NameMap.find])
  obtain ⟨root, parts, hsplit, hparse⟩ := KeyPath.parse?_of_plain (hplain e' he')
  rw [hkey, KeyPath.ofText, hparse]
  exact hplain e' he' root (by rw [hsplit]; simp)

/-- A list under a key that is no path is refused. -/
theorem overrides_eq_error (hplain : Plain marker before) {key : String}
    (hkey : listKey? marker name = some key) (hparse : KeyPath.parse? key = none) :
    overrides marker (before ++ (name, value) :: after) = .error name := by
  have hastray : isAstray marker (name, value) = true := by
    simp [isAstray, hkey, hparse]
  rw [overrides_eq, List.find?_append, hplain.find?_isAstray, List.find?_cons_of_pos hastray]
  rfl

end Variables

namespace Stack

open Variables

theorem open_defaults (policy : String) (field : NameField) :
    Tree.Open (listPath policy field) defaults.entries := by
  intro _ u hu
  have hpolicies : NameMap.find "policies" defaults.entries = some (.table []) := by
    simp [defaults, NameMap.find]
  cases hpolicies.symm.trans hu
  exact ⟨[], rfl, Tree.Open.nil _⟩

section

variable {s : Stack} {user project personal singles : Layer} (huser : s.userLayer = .ok user)
  (hproject : s.projectLayer = .ok project) (hpersonal : s.personalLayer = .ok personal)
  (hsingles : s.singleLayer = .ok singles)

/-- What the lists of variables are merged into. -/
def below (user project personal singles : Layer) : Tree :=
  Layer.mergeOver ([user, project, personal].foldl Layer.mergeOver defaults) singles

include huser hproject hpersonal hsingles

/-- It is an ordered table. -/
theorem isOrderedTable_below : (below user project personal singles).IsOrderedTable := by
  have hfile : ∀ {content : Option Bytes} (es : Layer), fileLayer content = some es →
      ∀ e ∈ es, e.2.Ordered := fun _ h => (fileLayer_ordered h).entries
  have hfiles : ∀ layer ∈ [user, project, personal], ∀ e ∈ layer, e.2.Ordered := by
    simp only [List.forall_mem_cons]
    exact ⟨taken_ordered huser hfile, taken_ordered hproject hfile, taken_ordered hpersonal hfile,
      by simp⟩
  refine Layer.mergeOver_isOrderedTable _ (taken_ordered hsingles ?_)
    (foldl_mergeOver_isOrderedTable hfiles ⟨defaults_ordered, _, rfl⟩)
  rintro es ⟨⟩ e he
  exact scalars_ordered _ _ _ he

theorem load_eq_merge_lists (hexplicit : s.explicit = none) (hplain : Plain s.marker s.environment) :
    s.load = settings ((below user project personal singles).merge
      (lists s.orders.lists (listed s.marker s.environment))) := by
  have hnamed : s.namedLayer = .ok [] := by
    rw [namedLayer, hexplicit]
    exact congrArg Except.ok (arrange_nil _)
  obtain ⟨-, old, hold⟩ := isOrderedTable_below huser hproject hpersonal hsingles
  obtain ⟨es, hes, -, hkeys⟩ := exists_lists hplain s.orders.lists
  rw [load_eq (variables_of_plain hplain).1 huser hproject hpersonal hsingles hnamed]
  show settings (Layer.mergeOver (below user project personal singles) _) = _
  rw [hold, hes, Tree.entries_table, Layer.mergeOver_eq_merge_of_plain hkeys]

/-- A way that is open in the files stays open if variables lead elsewhere. -/
theorem open_below {path : List String} (hdefaults : Tree.Open path defaults.entries)
    (hfiles : ∀ file ∈ [s.user, s.project, s.personal], ∀ layer ∈ fileLayer file, layer.Open path)
    (hothers : Elsewhere path (layer s.marker s.environment)) :
    Tree.Open path (below user project personal singles).entries := by
  simp only [List.forall_mem_cons] at hfiles
  obtain ⟨hopenUser, hopenProject, hopenPersonal, -⟩ := hfiles
  have hfile : ∀ {content : Option Bytes} {order : List String} {l : Layer} {t : Tree},
      taken s.room order (fileLayer content) = .ok l →
      (∀ layer ∈ fileLayer content, layer.Open path) → Tree.Open path t.entries →
      Tree.Open path (Layer.mergeOver t l).entries := by
    intro content order l t hl hopen ht
    obtain ⟨es, hes, -, rfl⟩ := taken_eq_ok_iff.1 hl
    exact Layer.open_mergeOver (fun e he => hopen es hes e (mem_arrange.1 he))
      (fun e he => (fileLayer_ordered hes).entries e (mem_arrange.1 he)) ht
  obtain ⟨es, hes, -, rfl⟩ := taken_eq_ok_iff.1 hsingles
  cases hes
  have hmem : ∀ e ∈ arrange (·.1) s.orders.scalars s.singles.toList,
      e ∈ layer s.marker s.environment := fun e he => scalars_subset _ e (mem_arrange.1 he)
  rw [below, Layer.mergeOver_eq_overlay fun e he => (hothers e (hmem e he)).1]
  refine Layer.open_overlay (fun e he => (hothers e (hmem e he)).2) ?_
  exact hfile hpersonal hopenPersonal (hfile hproject hopenProject (hfile huser hopenUser hdefaults))

end

/-- **A list variable overrides one field.** If settings can be loaded without
it, then with it the same settings are loaded, but for the names in the field
of the policy that the variable is named after. The policy is made if it is not
there. Only if that policy has no name, the variable is refused. -/
theorem load_withList (s : Stack) {before after : List Variable} {policy : String}
    {field : NameField} {names : NameSet} {name value : String} {c : Settings}
    (hmarker : Text.IsAscii s.marker) (hexplicit : s.explicit = none)
    (hfiles : ∀ file ∈ [s.user, s.project, s.personal], ∀ layer ∈ fileLayer file,
      layer.Open (listPath policy field))
    (hothers : Elsewhere (listPath policy field) (layer s.marker (before ++ after)))
    (hpolicy : IsPolicyName policy)
    (hname : Text.lowerCase name = Text.lowerCase (listVariable s.marker policy field))
    (hnames : ∀ n ∈ names, IsItem n) (hvalue : Writes value names)
    (hload : load { s with environment := before ++ after } = .ok c) :
    load { s with environment := before ++ (name, value) :: after } =
      if policy = "" then .error (.badVariable name) else .ok (c.putNames policy field names) := by
  have hkey := key?_listVariable hmarker hpolicy hname
  have hlistKey : listKey? s.marker name = some (".".intercalate (listPath policy field)) := by
    rw [listKey?, hkey, Option.filter_some, isListKey_listPath hpolicy, if_pos rfl]
  have hplain : Plain s.marker (before ++ after) := fun e he => (hothers e he).1
  split
  · rename_i hempty
    subst hempty
    have hbefore : Plain s.marker before := fun e he =>
      hplain e (layer_append before after ▸ List.mem_append_left _ he)
    rw [load, layers, listLayer, overrides_eq_error hbefore hlistKey parse?_listPath_empty]
    rfl
  · rename_i hne
    obtain ⟨ls, hls, hsettings⟩ := Except.bind_eq_ok.1 hload
    obtain ⟨-, user, project, personal, singles, -, -, huser, hproject, hpersonal, hsingles, -, -⟩ :=
      layers_eq_ok_iff.1 hls
    have hplain' : Plain s.marker (before ++ (name, value) :: after) :=
      plain_middle hpolicy hne hkey hothers
    have hnone : scalarKey? s.marker name = none := by
      rw [scalarKey?, hkey, Option.filter_some, isListKey_listPath hpolicy]
      rfl
    have hsingles' : singleLayer { s with environment := before ++ (name, value) :: after } =
        .ok singles := by
      rw [← hsingles, singleLayer, singleLayer, Stack.singles, Stack.singles]
      exact congrArg (fun m => taken s.room s.orders.scalars (some (NameMap.toList m)))
        (scalars_middle s.orders.names hnone)
    have hbelow := isOrderedTable_below huser hproject hpersonal hsingles
    have hopen := open_below huser hproject hpersonal hsingles (open_defaults policy field) hfiles
      hothers
    obtain ⟨es, hes, ho, -⟩ := exists_lists hplain s.orders.lists
    have hopenLists : Tree.Open (listPath policy field)
        (lists s.orders.lists (listed s.marker (before ++ after))).entries := by
      rw [lists_eq_overlay _ fun e he => hplain e (listed_subset e he)]
      exact Layer.open_overlay (fun e he => (hothers e (inOrder_subset _ e he)).2) (Tree.Open.nil _)
    rw [load_eq_merge_lists huser hproject hpersonal hsingles hexplicit hplain, settings_eq_ok_iff]
      at hload
    rw [load_eq_merge_lists (s := { s with environment := before ++ (name, value) :: after }) huser
      hproject hpersonal hsingles' hexplicit hplain']
    show settings (Tree.merge _ (lists s.orders.lists _)) = _
    rw [lists_middle s.orders.lists hpolicy hne hkey hothers]
    rw [hes] at hload hopenLists ⊢
    rw [← Tree.merge_merge_branch (by simp [Tree.texts]) (.texts _) ho hbelow.1 hopenLists,
      settings_eq_ok_iff]
    have hmerged := Layers.readSettings_merge_list (hbelow.1.merge ho) policy field
      (Variables.names value) hload (hopen.merge hopenLists ho)
    rw [ofList_names hvalue hnames] at hmerged
    exact hmerged

/-- A project with one policy. -/
def staffed : Stack where
  project := some (Text.toBytes "locked = ['vault']\n[policies.ops]\nallow_users = ['bob']")

/-- The list goes beside what the file says of the policy. -/
theorem load_staffed :
    load { staffed with environment := [("WARDEN_LOGGING__AUDIT", "no"), ("HOME", "/root")] } = .ok {
      locked := .ofList ["vault"], logging := { audit := false }
      policies := .ofList [("ops", { allowUsers := .ofList ["bob"] })] } ∧
    load { staffed with environment := [("WARDEN_LOGGING__AUDIT", "no"),
      ("Warden_Policies__Ops__Deny_Roles", " guest ,, intern,guest"), ("HOME", "/root")] } = .ok {
        locked := .ofList ["vault"], logging := { audit := false }
        policies := .ofList [("ops", {
          allowUsers := .ofList ["bob"], denyRoles := some (.ofList ["guest", "intern"]) })] } := by
  have hitems : ∀ n ∈ NameSet.ofList ["guest", "intern"], IsItem n := by
    intro n hn
    simp only [NameSet.mem_ofList, List.mem_cons, List.not_mem_nil, or_false] at hn
    rcases hn with rfl | rfl <;> exact ⟨by decide, by decide, by decide +kernel⟩
  have hwrites : Writes " guest ,, intern,guest" (.ofList ["guest", "intern"]) := by
    refine ⟨[⟨" ", "guest", " "⟩, ⟨"", "", ""⟩, ⟨" ", "intern", ""⟩, ⟨"", "guest", ""⟩],
      by decide +kernel, by decide, fun n hn => ?_⟩
    simp only [NameSet.mem_ofList, List.mem_cons, List.not_mem_nil, or_false, exists_eq_or_imp,
      exists_eq_left, Ne.symm hn, false_or]
    tauto
  have hload : load { staffed with environment :=
      [("WARDEN_LOGGING__AUDIT", "no")] ++ [("HOME", "/root")] } = .ok {
        locked := .ofList ["vault"], logging := { audit := false }
        policies := .ofList [("ops", { allowUsers := .ofList ["bob"] })] } := by decide +kernel
  have hopen : ∀ file ∈ [staffed.user, staffed.project, staffed.personal], ∀ layer ∈ fileLayer file,
      layer.Open (listPath "ops" .denyRoles) := by decide +kernel
  have hname : Text.lowerCase "Warden_Policies__Ops__Deny_Roles" =
      Text.lowerCase (listVariable "WARDEN" "ops" .denyRoles) := by decide +kernel
  have hmarker : Text.IsAscii "WARDEN" := by decide +kernel
  have hothers : Elsewhere (listPath "ops" .denyRoles)
      (layer "WARDEN" ([("WARDEN_LOGGING__AUDIT", "no")] ++ [("HOME", "/root")])) := by decide +kernel
  have hops : IsPolicyName "ops" := ⟨by simp [isNameChar], by decide +kernel⟩
  have hwith := load_withList staffed hmarker rfl hopen hothers hops hname hitems hwrites hload
  rw [if_neg (by decide)] at hwith
  exact ⟨hload, hwith.trans (by decide +kernel)⟩

/-- A policy may have no name, but then no variable sets its lists. -/
theorem load_nameless : IsPolicyName "" ∧
    Text.lowerCase "WARDEN_POLICIES____ALLOW_ROLES" =
      Text.lowerCase (listVariable "WARDEN" "" .allowRoles) ∧
    IsItem "a" ∧ Writes "a" (.ofList ["a"]) ∧ load {} = .ok {} ∧
    load { environment := [("WARDEN_POLICIES____ALLOW_ROLES", "a")] } ≠
      .ok (({} : Settings).putNames "" .allowRoles (.ofList ["a"])) := by
  have hwrites : Writes "a" (.ofList ["a"]) :=
    ⟨[⟨"", "a", ""⟩], by decide +kernel, by decide, fun n _ => by simp [eq_comm]⟩
  refine ⟨⟨by simp, by decide +kernel⟩, by decide +kernel, ⟨by decide, by decide, by decide +kernel⟩,
    hwrites, ?_, ?_⟩ <;> decide +kernel

end Stack

end AccessPolicy
