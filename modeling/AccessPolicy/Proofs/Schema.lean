/-
The shape of settings (`Shape.settings`), and what a tree of that shape is read
to.

The readings of this module are functions of the tree (`Settings.ofTree`), and
`readSettings_eq_ok_iff_of_admits` says that merged settings are read to just
that. A required claim may still be without its type, since it can be put
together from several layers; nothing else in a tree of the shape stops the
reading.
-/
import AccessPolicy.Layers.Format
import AccessPolicy.Proofs.Decoding
import AccessPolicy.Proofs.LastEntry
import AccessPolicy.Proofs.Shapes

namespace AccessPolicy

/-! ## Shapes -/

namespace Shape

/-- A list of names. -/
def names : Shape := .list .text

/-- A required claim. -/
def claim (required : List String) : Shape := .record [("type", .text), ("values", names)] required

/-- A rule. The type of the single claim may be missing. -/
def rule : Shape := .record [("allow_roles", names), ("allow_users", names),
  ("deny_roles", names), ("deny_users", names), ("allow_claim", claim []),
  ("allow_claims", .list (claim ["type"]))] []

/-- The logging settings. -/
def logging : Shape := .record [("level", .text), ("audit", .bool)] []

/-- Settings, of which everything may be missing. -/
def settings : Shape :=
  .record [("locked", names), ("logging", logging), ("policies", .map rule)] []

end Shape

/-! ## Readings -/

namespace Tree

/-- The text; other values have none. -/
def asText : Tree → String
  | .text s => s
  | _ => ""

/-- The truth value; other values have none. -/
def asBool : Tree → Bool
  | .bool b => b
  | _ => false

/-- The names in a list. -/
def names (t : Tree) : NameSet := .ofList (t.items.map asText)

end Tree

/-- The claim that a tree says. -/
def Claim.ofTree (t : Tree) : Claim where
  type := ((t.at? ["type"]).map Tree.asText).getD ""
  values := ((t.at? ["values"]).map Tree.names).getD ∅

/-- The rule that a tree says. -/
def Rule.ofTree (t : Tree) : Rule where
  allowRoles := ((t.at? ["allow_roles"]).map Tree.names).getD ∅
  allowUsers := ((t.at? ["allow_users"]).map Tree.names).getD ∅
  denyRoles := (t.at? ["deny_roles"]).map Tree.names
  denyUsers := (t.at? ["deny_users"]).map Tree.names
  allowClaim := (t.at? ["allow_claim"]).map Claim.ofTree
  allowClaims := (t.at? ["allow_claims"]).map fun l => l.items.map Claim.ofTree

/-- The logging settings that a tree says. -/
def Logging.ofTree (t : Tree) : Logging where
  level := ((t.at? ["level"]).map Tree.asText).getD "warn"
  audit := ((t.at? ["audit"]).map Tree.asBool).getD true

/-- The settings that a tree says. -/
def Settings.ofTree (t : Tree) : Settings where
  locked := ((t.at? ["locked"]).map Tree.names).getD ∅
  logging := ((t.at? ["logging"]).map Logging.ofTree).getD {}
  policies := ((t.at? ["policies"]).map fun p =>
    NameMap.ofList (p.entries.map fun e => (e.1, Rule.ofTree e.2))).getD ∅

/-- The claim that is required, if one is, has a type. -/
def Tree.ClaimTyped (rule : Tree) : Prop :=
  ∀ c, rule.at? ["allow_claim"] = some c → (c.at? ["type"]).isSome = true

/-- The claims that are required by the policies have their types. -/
def Tree.ClaimsTyped (settings : Tree) : Prop :=
  ∀ p, settings.at? ["policies"] = some p → ∀ e ∈ p.entries, e.2.ClaimTyped

/-! ## Reading trees of a shape -/

theorem Tree.at?_singleton (k : String) (t : Tree) : t.at? [k] = NameMap.find k t.entries := by
  rw [Tree.at?_cons]
  cases NameMap.find k t.entries <;> rfl

theorem Tree.Ordered.nodup {es : List (String × Tree)} (h : Tree.Ordered (.table es)) :
    (es.map (·.1)).Nodup := by
  have hkeys : (es.map (·.1)).Pairwise (· < ·) := List.pairwise_map.2 h.increasing
  exact hkeys.imp String.ne_of_lt

theorem Tree.Ordered.mem_items {t : Tree} (h : t.Ordered) : ∀ x ∈ t.items, x.Ordered := by
  cases t with
  | list ts => exact h.items
  | _ => simp [Tree.items]

theorem Except.mapM_eq_ok_map {ε α β : Type} {f : α → Except ε β} {g : α → β} :
    ∀ {l : List α}, (∀ x ∈ l, f x = .ok (g x)) → l.mapM f = .ok (l.map g)
  | [], _ => rfl
  | x :: l, h => by
    obtain ⟨hx, hl⟩ := List.forall_mem_cons.1 h
    rw [List.mapM_cons, hx, Except.mapM_eq_ok_map hl]
    rfl

namespace Shape

variable {s : Shape} {t : Tree} {es : List (String × Tree)}

theorem ne_null (h : s.admits t = true) : t ≠ .null := by
  rintro rfl
  cases s <;> simp [admits] at h

theorem admits_list_iff {ts : List Tree} {item : Shape} :
    (Shape.list item).admits (.list ts) = true ↔ ∀ t ∈ ts, item.admits t = true := by
  simp [admits]

theorem exists_list {item : Shape} (h : (Shape.list item).admits t = true) : ∃ ts, t = .list ts := by
  cases t <;> simp_all [admits]

/-- What stands in a table under a key has the shape of that key. -/
theorem admits_find {s' : Shape} {k : String} {y : Tree} (h : s.admits (.table es) = true)
    (hk : s.entry? k = some s') (hy : NameMap.find k es = some y) : s'.admits y = true := by
  obtain ⟨s'', hs'', hadmits⟩ := (admits_table_iff.1 h).2.1.find hy
  rw [hk] at hs''
  cases hs''
  exact hadmits

end Shape

namespace Layers

variable {t : Tree} {es : List (String × Tree)}

theorem text_of_admits (h : Shape.text.admits t = true) : format.text t = .ok t.asText := by
  cases t <;> simp_all [Shape.admits, Tree.asText, format, textOf]

theorem bool_of_admits (h : Shape.bool.admits t = true) : format.bool t = .ok t.asBool := by
  cases t <;> simp_all [Shape.admits, Tree.asBool, format, boolOf]

theorem readList_of_admits {α : Type} {item : Shape} {read : Tree → Except ReadError α}
    {g : Tree → α} (h : (Shape.list item).admits t = true)
    (hread : ∀ x ∈ t.items, item.admits x = true → read x = .ok (g x)) :
    format.readList read t = .ok (t.items.map g) := by
  obtain ⟨ts, rfl⟩ := Shape.exists_list h
  have hitems : ts.mapM read = .ok (ts.map g) :=
    Except.mapM_eq_ok_map fun x hx => hread x hx (Shape.admits_list_iff.1 h x hx)
  show (do let values ← ts.mapM read; Except.ok (); return values) = _
  rw [hitems]
  rfl

theorem readNames_of_admits (h : Shape.names.admits t = true) :
    format.readNames t = .ok t.names := by
  rw [Format.readNames, readList_of_admits h fun x _ hx => text_of_admits hx]
  rfl

theorem readOption_eq_ok_iff {α : Type} {read : Tree → Except ReadError α} (h : t ≠ .null)
    {o : Option α} : format.readOption read t = .ok o ↔ ∃ a, read t = .ok a ∧ o = some a := by
  have hread : format.readOption read t = some <$> read t := by
    cases t <;> first | exact absurd rfl h | rfl
  rw [hread]
  cases read t with
  | error e => simp [Functor.map, Except.map]
  | ok a => simp [Functor.map, Except.map, eq_comm]

/-- The entry of a key, if it can be read on some condition only. -/
theorem entryReads_iff {α : Type} {read : Tree → Except ReadError α} {g : Tree → α} {P : Tree → Prop}
    {default : α} {key : String} {a : α}
    (h : ∀ y, NameMap.find key es = some y → ∀ a, read y = .ok a ↔ P y ∧ a = g y) :
    Format.EntryReads read default key es a ↔
      (∀ y, NameMap.find key es = some y → P y) ∧
        a = ((NameMap.find key es).map g).getD default := by
  unfold Format.EntryReads
  cases hk : NameMap.find key es with
  | none => simp
  | some y => simp [h y hk]

/-- The entry of a key, if it can be read in any case. -/
theorem entryReads_iff_of_ok {α : Type} {read : Tree → Except ReadError α} {g : Tree → α}
    {default : α} {key : String} {a : α}
    (h : ∀ y, NameMap.find key es = some y → read y = .ok (g y)) :
    Format.EntryReads read default key es a ↔ a = ((NameMap.find key es).map g).getD default := by
  rw [entryReads_iff (g := g) (P := fun _ => True) fun y hy a => by rw [h y hy]; simp [eq_comm]]
  simp

/-- The entry of a key that may be absent. -/
theorem entryReads_option_iff {α : Type} {read : Tree → Except ReadError α} {g : Tree → α}
    {P : Tree → Prop} {key : String} {o : Option α} {s : Shape}
    (hs : ∀ y, NameMap.find key es = some y → s.admits y = true)
    (h : ∀ y, NameMap.find key es = some y → ∀ a, read y = .ok a ↔ P y ∧ a = g y) :
    Format.EntryReads (format.readOption read) none key es o ↔
      (∀ y, NameMap.find key es = some y → P y) ∧ o = (NameMap.find key es).map g := by
  have hread : ∀ y, NameMap.find key es = some y → ∀ o, format.readOption read y = .ok o ↔
      P y ∧ o = some (g y) := by
    intro y hy o
    rw [readOption_eq_ok_iff (Shape.ne_null (hs y hy))]
    simp [h y hy, and_assoc]
  rw [entryReads_iff hread]
  cases NameMap.find key es <;> rfl

theorem entryReads_option_iff_of_ok {α : Type} {read : Tree → Except ReadError α} {g : Tree → α}
    {key : String} {o : Option α} {s : Shape}
    (hs : ∀ y, NameMap.find key es = some y → s.admits y = true)
    (h : ∀ y, NameMap.find key es = some y → read y = .ok (g y)) :
    Format.EntryReads (format.readOption read) none key es o ↔ o = (NameMap.find key es).map g := by
  rw [entryReads_option_iff (g := g) (P := fun _ => True) hs fun y hy a => by
    rw [h y hy]; simp [eq_comm]]
  simp

/-! ## Records -/

theorem readRule_table_iff (ho : (Tree.table es).Ordered) {r : Rule} :
    format.readRule (.table es) = .ok r ↔ Format.RuleReads format es r :=
  Format.readRule_eq_ok_iff (fun _ => rfl) rfl ho.nodup

theorem readLogging_table_iff (ho : (Tree.table es).Ordered) {l : Logging} :
    format.readLogging (.table es) = .ok l ↔ Format.LoggingReads format es l :=
  Format.readLogging_eq_ok_iff (fun _ => rfl) rfl ho.nodup

theorem readSettings_table_iff (ho : (Tree.table es).Ordered) {s : Settings} :
    format.readSettings (.table es) = .ok s ↔ Format.SettingsReads format es s :=
  Format.readSettings_eq_ok_iff (fun _ => rfl) rfl ho.nodup

variable {required : List String}

theorem readClaim_eq_ok_iff_of_admits (h : (Shape.claim required).admits t = true) (ho : t.Ordered)
    {c : Claim} :
    format.readClaim t = .ok c ↔ (t.at? ["type"]).isSome = true ∧ c = Claim.ofTree t := by
  obtain ⟨es, rfl⟩ := Shape.exists_table rfl h
  have hvalues : ∀ y, NameMap.find "values" es = some y → format.readNames y = .ok y.names :=
    fun y hy => readNames_of_admits (Shape.admits_find h rfl hy)
  rw [Format.readClaim_eq_ok_iff (fun _ => rfl) rfl ho.nodup]
  simp only [Claim.ofTree, Tree.at?_singleton, Tree.entries_table]
  constructor
  · rintro ⟨⟨y, hy, htype⟩, hc⟩
    rw [text_of_admits (Shape.admits_find h rfl hy)] at htype
    rw [entryReads_iff_of_ok hvalues] at hc
    obtain ⟨type, values⟩ := c
    refine ⟨by rw [hy]; rfl, ?_⟩
    rw [hy, show values = _ from hc, ← show y.asText = type from Except.ok.inj htype]
    rfl
  · rintro ⟨htype, rfl⟩
    obtain ⟨y, hy⟩ := Option.isSome_iff_exists.1 htype
    refine ⟨⟨y, hy, ?_⟩, (entryReads_iff_of_ok hvalues).2 rfl⟩
    rw [text_of_admits (Shape.admits_find h rfl hy)]
    simp [hy]

/-- A claim whose type has to be there can always be read. -/
theorem readClaim_of_admits (h : (Shape.claim ["type"]).admits t = true) (ho : t.Ordered) :
    format.readClaim t = .ok (Claim.ofTree t) := by
  obtain ⟨es, rfl⟩ := Shape.exists_table rfl h
  rw [readClaim_eq_ok_iff_of_admits h ho, Tree.at?_singleton]
  exact ⟨(Shape.admits_table_iff.1 h).2.2 "type" (by simp [Shape.claim, Shape.required]), rfl⟩

theorem readRule_eq_ok_iff_of_admits (h : Shape.rule.admits t = true) (ho : t.Ordered) {r : Rule} :
    format.readRule t = .ok r ↔ t.ClaimTyped ∧ r = Rule.ofTree t := by
  obtain ⟨es, rfl⟩ := Shape.exists_table rfl h
  have hnames : ∀ {k : String}, Shape.rule.entry? k = some Shape.names →
      ∀ y, NameMap.find k es = some y → format.readNames y = .ok y.names :=
    fun hk y hy => readNames_of_admits (Shape.admits_find h hk hy)
  have hclaim : ∀ y, NameMap.find "allow_claim" es = some y → ∀ c, format.readClaim y = .ok c ↔
      (y.at? ["type"]).isSome = true ∧ c = Claim.ofTree y := by
    intro y hy c
    have hadmits : (Shape.claim []).admits y = true := Shape.admits_find h rfl hy
    exact readClaim_eq_ok_iff_of_admits hadmits (ho.find hy)
  have hclaims : ∀ y, NameMap.find "allow_claims" es = some y →
      format.readList format.readClaim y = .ok (y.items.map Claim.ofTree) := by
    intro y hy
    have hadmits : (Shape.list (Shape.claim ["type"])).admits y = true :=
      Shape.admits_find h rfl hy
    exact readList_of_admits hadmits fun x hx hx' =>
      readClaim_of_admits hx' ((ho.find hy).mem_items x hx)
  have hadmits : ∀ {k : String} {s : Shape}, Shape.rule.entry? k = some s →
      ∀ y, NameMap.find k es = some y → s.admits y = true :=
    fun hk y hy => Shape.admits_find h hk hy
  rw [readRule_table_iff ho]
  constructor
  · rintro ⟨h₁, h₂, h₃, h₄, h₅, h₆⟩
    rw [entryReads_iff_of_ok (hnames rfl)] at h₁ h₂
    rw [entryReads_option_iff_of_ok (hadmits rfl) (hnames rfl)] at h₃ h₄
    rw [entryReads_option_iff (hadmits rfl) hclaim] at h₅
    rw [entryReads_option_iff_of_ok (hadmits rfl) hclaims] at h₆
    refine ⟨by simpa [Tree.ClaimTyped, Tree.at?_singleton] using h₅.1, ?_⟩
    cases r
    simp only [Rule.ofTree, Tree.at?_singleton, Tree.entries_table, Rule.mk.injEq]
    exact ⟨h₁, h₂, h₃, h₄, h₅.2, h₆⟩
  · rintro ⟨htyped, rfl⟩
    have htyped' : ∀ y, NameMap.find "allow_claim" es = some y → (y.at? ["type"]).isSome = true := by
      simpa [Tree.ClaimTyped, Tree.at?_singleton] using htyped
    simp only [Rule.ofTree, Tree.at?_singleton, Tree.entries_table]
    exact {
      allowRoles := (entryReads_iff_of_ok (hnames rfl)).2 rfl
      allowUsers := (entryReads_iff_of_ok (hnames rfl)).2 rfl
      denyRoles := (entryReads_option_iff_of_ok (hadmits rfl) (hnames rfl)).2 rfl
      denyUsers := (entryReads_option_iff_of_ok (hadmits rfl) (hnames rfl)).2 rfl
      allowClaim := (entryReads_option_iff (hadmits rfl) hclaim).2 ⟨htyped', rfl⟩
      allowClaims := (entryReads_option_iff_of_ok (hadmits rfl) hclaims).2 rfl }

/-! ## Settings -/

theorem readLogging_of_admits (h : Shape.logging.admits t = true) (ho : t.Ordered) :
    format.readLogging t = .ok (Logging.ofTree t) := by
  obtain ⟨es, rfl⟩ := Shape.exists_table rfl h
  rw [readLogging_table_iff ho]
  simp only [Logging.ofTree, Tree.at?_singleton, Tree.entries_table]
  constructor
  · exact (entryReads_iff_of_ok fun y hy => text_of_admits (Shape.admits_find h rfl hy)).2 rfl
  · exact (entryReads_iff_of_ok fun y hy => bool_of_admits (Shape.admits_find h rfl hy)).2 rfl

/-- Taking entries into a map, if their values can be read on some condition. -/
theorem foldlM_insert_eq_ok_iff {α : Type} {read : Tree → Except ReadError α} {g : Tree → α}
    {P : Tree → Prop} : ∀ {es : List (String × Tree)} {m₀ m : NameMap α},
    (∀ e ∈ es, ∀ a, read e.2 = .ok a ↔ P e.2 ∧ a = g e.2) →
    ((Entries.ofList es).list.foldlM (fun (m : NameMap α) e => do
        let key ← e.1
        return m.insert key (← read e.2)) m₀ = .ok m ↔
      (∀ e ∈ es, P e.2) ∧ m = es.foldl (fun m e => m.insert e.1 (g e.2)) m₀)
  | [], m₀, m, _ => by
    show Except.ok m₀ = .ok m ↔ _
    simp [eq_comm]
  | (k, y) :: es, m₀, m, h => by
    obtain ⟨hy, hes⟩ := List.forall_mem_cons.1 h
    have hstep : ∀ m₁, (do return m₀.insert k (← read y) : Except ReadError (NameMap α)) = .ok m₁ ↔
        P y ∧ m₁ = m₀.insert k (g y) := by
      intro m₁
      rw [Except.bind_eq_ok]
      constructor
      · rintro ⟨a, ha, hm₁⟩
        obtain ⟨hP, rfl⟩ := (hy a).1 ha
        exact ⟨hP, (Except.pure_eq_ok.1 hm₁).symm⟩
      · rintro ⟨hP, rfl⟩
        exact ⟨_, (hy _).2 ⟨hP, rfl⟩, rfl⟩
    show ((do return m₀.insert k (← read y)) >>= fun m₁ => _) = _ ↔ _
    rw [Except.bind_eq_ok, List.forall_mem_cons, List.foldl_cons]
    simp only [hstep, and_assoc]
    constructor
    · rintro ⟨m₁, hP, rfl, hrest⟩
      exact ⟨hP, (foldlM_insert_eq_ok_iff hes).1 hrest⟩
    · rintro ⟨hP, hrest⟩
      exact ⟨_, hP, rfl, (foldlM_insert_eq_ok_iff hes).2 hrest⟩

theorem readMap_eq_ok_iff {α : Type} {read : Tree → Except ReadError α} {g : Tree → α}
    {P : Tree → Prop} {es : List (String × Tree)} {m : NameMap α}
    (h : ∀ e ∈ es, ∀ a, read e.2 = .ok a ↔ P e.2 ∧ a = g e.2) :
    format.readMap read (.table es) = .ok m ↔
      (∀ e ∈ es, P e.2) ∧ m = NameMap.ofList (es.map fun e => (e.1, g e.2)) := by
  rw [NameMap.ofList, List.foldl_map, ← foldlM_insert_eq_ok_iff h]
  show ((Entries.ofList es).list.foldlM _ _ >>= fun m => Except.ok m) = _ ↔ _
  rw [Except.bind_eq_ok]
  simp

/-- A map is read name by name. -/
theorem readMap_eq_ok_iff_get? {α : Type} [Inhabited α] {read : Tree → Except ReadError α}
    {es : List (String × Tree)} (ho : (Tree.table es).Ordered) {m : NameMap α} :
    format.readMap read (.table es) = .ok m ↔
      ∀ k, (NameMap.find k es).map read = (m.get? k).map .ok := by
  have hread : ∀ e ∈ es, ∀ a, read e.2 = .ok a ↔
      (∃ a, read e.2 = .ok a) ∧ a = (read e.2).toOption.getD default := by
    intro e _ a
    cases read e.2 <;> simp [Except.toOption, eq_comm]
  have hget : ∀ k, (NameMap.ofList (es.map fun e => (e.1, (read e.2).toOption.getD default))).get? k =
      ((NameMap.find k es).map read).map fun x => x.toOption.getD default := by
    intro k
    rw [NameMap.get?_ofList, NameMap.last?_map fun _ t => (read t).toOption.getD default,
      NameMap.last?_eq_find ho.increasing, Option.map_map]
    rfl
  rw [readMap_eq_ok_iff (P := fun t => ∃ a, read t = .ok a)
    (g := fun t => (read t).toOption.getD default) hread]
  constructor
  · rintro ⟨hall, rfl⟩ k
    rw [hget]
    cases hk : NameMap.find k es with
    | none => rfl
    | some t =>
      obtain ⟨a, ha⟩ := hall _ (NameMap.mem_of_find hk)
      rw [Option.map_some, show read t = .ok a from ha]
      rfl
  · intro h
    refine ⟨fun e he => ?_, NameMap.ext fun k => ?_⟩
    · have heq := h e.1
      rw [(NameMap.find_eq_some ho.increasing).2 he] at heq
      obtain ⟨a, -, ha⟩ := Option.map_eq_some_iff.1 heq.symm
      exact ⟨a, ha.symm⟩
    · rw [hget, h, Option.map_map]
      exact Option.map_id'.symm

/-- What a map is read to under a key is read from the entry of that key. -/
theorem get?_of_readMap {α : Type} [Inhabited α] {read : Tree → Except ReadError α}
    {es : List (String × Tree)} (ho : (Tree.table es).Ordered) {m : NameMap α}
    (h : format.readMap read (.table es) = .ok m) {key : String} {t : Tree}
    (ht : NameMap.find key es = some t) : ∃ a, m.get? key = some a ∧ read t = .ok a := by
  have heq := (readMap_eq_ok_iff_get? ho).1 h key
  rw [ht] at heq
  obtain ⟨a, ha, hread⟩ := Option.map_eq_some_iff.1 heq.symm
  exact ⟨a, ha, hread.symm⟩

/-- **Reading merged settings.** A tree of the shape of settings is read to
what it says, unless a required claim is without a type. -/
theorem readSettings_eq_ok_iff_of_admits (h : Shape.settings.admits t = true) (ho : t.Ordered)
    {s : Settings} : format.readSettings t = .ok s ↔ t.ClaimsTyped ∧ s = Settings.ofTree t := by
  obtain ⟨es, rfl⟩ := Shape.exists_table rfl h
  have hlocked : ∀ y, NameMap.find "locked" es = some y → format.readNames y = .ok y.names :=
    fun y hy => readNames_of_admits (Shape.admits_find h rfl hy)
  have hlogging : ∀ y, NameMap.find "logging" es = some y →
      format.readLogging y = .ok (Logging.ofTree y) :=
    fun y hy => readLogging_of_admits (Shape.admits_find h rfl hy) (ho.find hy)
  have hpolicies : ∀ y, NameMap.find "policies" es = some y → ∀ m,
      format.readMap format.readRule y = .ok m ↔ (∀ e ∈ y.entries, e.2.ClaimTyped) ∧
        m = NameMap.ofList (y.entries.map fun e => (e.1, Rule.ofTree e.2)) := by
    intro y hy m
    have hadmits : (Shape.map Shape.rule).admits y = true := Shape.admits_find h rfl hy
    obtain ⟨ps, rfl⟩ := Shape.exists_table rfl hadmits
    refine readMap_eq_ok_iff fun e he r => ?_
    obtain ⟨s', hs', hrule⟩ := (Shape.admits_table_iff.1 hadmits).2.1 e he
    cases hs'
    exact readRule_eq_ok_iff_of_admits hrule ((ho.find hy).entries e he)
  rw [readSettings_table_iff ho]
  constructor
  · rintro ⟨h₁, h₂, h₃⟩
    rw [entryReads_iff_of_ok hlocked] at h₁
    rw [entryReads_iff_of_ok hlogging] at h₂
    rw [entryReads_iff hpolicies] at h₃
    refine ⟨by simpa [Tree.ClaimsTyped, Tree.at?_singleton] using h₃.1, ?_⟩
    cases s
    simp only [Settings.ofTree, Tree.at?_singleton, Tree.entries_table, Settings.mk.injEq]
    exact ⟨h₁, h₂, h₃.2⟩
  · rintro ⟨htyped, rfl⟩
    simp only [Settings.ofTree, Tree.at?_singleton, Tree.entries_table]
    exact {
      locked := (entryReads_iff_of_ok hlocked).2 rfl
      logging := (entryReads_iff_of_ok hlogging).2 rfl
      policies := (entryReads_iff hpolicies).2
        ⟨by simpa [Tree.ClaimsTyped, Tree.at?_singleton] using htyped, rfl⟩ }

end Layers

end AccessPolicy
