/-
Values of the wrong type in merged settings: wherever one stands, the settings
cannot be read (`Stack.settings_of_misfit`).

Each reading keeps to its shape: if it comes to a result, every part of the
value is of a sort that the shape takes there (`Shape.Guards`). Records may be
written as tables or as the lists of their values, so the parts of a record are
found by name and by position.
-/
import AccessPolicy.Proofs.Spots

namespace AccessPolicy

/-! ## Shapes along a path -/

namespace Shape

/-- The shape of the part of a value that a step leads to. -/
def part? : Shape → PathStep → Option Shape
  | .record fields _, .key name => NameMap.find name fields
  | .record fields _, .index (.ofNat n) => (fields[n]?).map (·.2)
  | .map value, .key _ => some value
  | .list item, .index (.ofNat _) => some item
  | _, _ => none

/-- The shape of what is at a spot of a value of the shape. -/
def at? : List PathStep → Shape → Option Shape
  | [], s => some s
  | step :: spot, s => (s.part? step).bind (at? spot)

/-- Whether the value is of a sort that does for the shape, whatever its parts are. -/
def takes : Shape → Tree → Bool
  | .text, t => (Layers.textOf t).isOk
  | .bool, t => (Layers.boolOf t).isOk
  | .list _, t => t.isList
  | .record _ _, t => t.isList || t.isTable
  | .map _, t => t.isTable

/-- Each part of the value is of a sort that does for its shape. A part that is
`null` may count as absent, and is not looked at. -/
def Fits (s : Shape) (t : Tree) : Prop :=
  ∀ spot s' v, s.at? spot = some s' → t.part? spot = some v → v ≠ .null → s'.takes v = true

/-- The reading keeps to the shape. -/
def Guards {α : Type} (s : Shape) (read : Tree → Except ReadError α) : Prop :=
  ∀ t a, read t = .ok a → s.Fits t

theorem takes_of_like {v w : Tree} (h : v.Like w) (s : Shape) : s.takes w = s.takes v := by
  cases s with
  | list item => exact h.isList
  | record fields required => simp only [takes, h.isList, h.isTable]
  | map value => exact h.isTable
  | text =>
    cases v with
    | table es => cases w <;> first | rfl | cases h
    | list ts => cases w <;> first | rfl | cases h
    | _ => rw [show w = _ from h]
  | bool =>
    cases v with
    | table es => cases w <;> first | rfl | cases h
    | list ts => cases w <;> first | rfl | cases h
    | _ => rw [show w = _ from h]

variable {s : Shape} {t x : Tree}

theorem part?_cons (step : PathStep) (spot : List PathStep) (t : Tree) :
    t.part? (step :: spot) = (t.part? [step]).bind (Tree.part? spot) := by
  cases step with
  | key name =>
    rw [Tree.part?, Tree.part?]
    cases NameMap.find name t.entries <;> rfl
  | index i =>
    cases i with
    | ofNat n =>
      rw [Tree.part?, Tree.part?]
      cases t.items[n]? <;> rfl
    | negSucc n => rfl

/-- A value fits if it is of the sort itself, and all its parts fit. -/
theorem fits_of (hroot : t ≠ .null → s.takes t = true)
    (hparts : ∀ step s' x, s.part? step = some s' → t.part? [step] = some x → s'.Fits x) :
    s.Fits t := by
  intro spot s' v hs' hv hnull
  cases spot with
  | nil =>
    cases hs'
    cases hv
    exact hroot hnull
  | cons step spot =>
    obtain ⟨s₁, hs₁, hs'⟩ := Option.bind_eq_some_iff.1 hs'
    rw [part?_cons] at hv
    obtain ⟨x, hx, hv⟩ := Option.bind_eq_some_iff.1 hv
    exact hparts step s₁ x hs₁ hx spot s' v hs' hv hnull

theorem fits_null (s : Shape) : s.Fits .null := by
  refine fits_of (fun h => absurd rfl h) ?_
  intro step s' x _ hx
  match step with
  | .key _ => cases hx
  | .index (.ofNat _) => cases hx
  | .index (.negSucc _) => cases hx

/-! ## Readings that keep to shapes -/

variable {α : Type} {read : Tree → Except ReadError α}

theorem guards_text : Shape.text.Guards Layers.format.text := by
  intro t a h
  have h : Layers.textOf t = .ok a := h
  refine fits_of (fun _ => ?_) (fun step s' x hs' => ?_)
  · rw [takes, h]
    rfl
  · cases hs'

theorem guards_bool : Shape.bool.Guards Layers.format.bool := by
  intro t a h
  have h : Layers.boolOf t = .ok a := h
  refine fits_of (fun _ => ?_) (fun step s' x hs' => ?_)
  · rw [takes, h]
    rfl
  · cases hs'

theorem exists_of_mapM {β : Type} {f : α → Except ReadError β} : ∀ {l : List α} {l' : List β},
    l.mapM f = .ok l' → ∀ x ∈ l, ∃ y, f x = .ok y
  | [], _, _, x, hx => by cases hx
  | y :: l, l', h, x, hx => by
    rw [List.mapM_cons] at h
    obtain ⟨b, hb, h⟩ := Except.bind_eq_ok.1 h
    obtain ⟨bs, hbs, -⟩ := Except.bind_eq_ok.1 h
    rcases List.mem_cons.1 hx with heq | hx
    · rw [heq]
      exact ⟨b, hb⟩
    · exact exists_of_mapM hbs x hx

theorem guards_list {item : Shape} (hread : item.Guards read) :
    (Shape.list item).Guards (Layers.format.readList read) := by
  intro t a h
  obtain ⟨items, hitems, h⟩ := Except.bind_eq_ok.1 h
  cases t with
  | list ts =>
    cases hitems
    obtain ⟨values, hvalues, -⟩ := Except.bind_eq_ok.1 h
    refine fits_of (fun _ => rfl) ?_
    intro step s' x hs' hx
    match step with
    | .index (.ofNat n) =>
      obtain ⟨y, hy, hx⟩ := Option.bind_eq_some_iff.1 hx
      cases hs'
      cases hx
      obtain ⟨b, hb⟩ := exists_of_mapM hvalues x (List.mem_of_getElem? hy)
      exact hread x b hb
  | _ => cases hitems

theorem guards_names : names.Guards Layers.format.readNames := by
  intro t a h
  obtain ⟨l, hl, -⟩ := Except.bind_eq_ok.1 h
  exact guards_list guards_text t l hl

theorem guards_option (hread : s.Guards read) : s.Guards (Layers.format.readOption read) := by
  intro t o h
  by_cases hnull : t = .null
  · rw [hnull]
    exact fits_null s
  · obtain ⟨a, ha, -⟩ := (Layers.readOption_eq_ok_iff hnull).1 h
    exact hread t a ha

theorem exists_of_readEntries : ∀ {es : List (String × Tree)} {m m' : NameMap α},
    (Json.treeEntries es).list.foldlM (fun (m : NameMap α) e => do
      let key ← e.1
      return m.insert key (← read e.2)) m = .ok m' → ∀ e ∈ es, ∃ a, read e.2 = .ok a
  | [], _, _, _, e, he => by cases he
  | e' :: es, m, m', h, e, he => by
    obtain ⟨m₁, hstep, hrest⟩ := Except.bind_eq_ok.1 h
    obtain ⟨key, -, hstep⟩ := Except.bind_eq_ok.1 hstep
    obtain ⟨a, ha, -⟩ := Except.bind_eq_ok.1 hstep
    rcases List.mem_cons.1 he with heq | he
    · rw [heq]
      exact ⟨a, ha⟩
    · exact exists_of_readEntries hrest e he

theorem guards_map (hread : s.Guards read) : (Shape.map s).Guards (Layers.format.readMap read) := by
  intro t a h
  obtain ⟨entries, hentries, h⟩ := Except.bind_eq_ok.1 h
  cases t with
  | table es =>
    cases hentries
    obtain ⟨m, hm, -⟩ := Except.bind_eq_ok.1 h
    refine fits_of (fun _ => rfl) ?_
    intro step s' x hs' hx
    match step with
    | .key name =>
      obtain ⟨y, hy, hx⟩ := Option.bind_eq_some_iff.1 hx
      cases hs'
      cases hx
      obtain ⟨b, hb⟩ := exists_of_readEntries hm (name, x) (NameMap.mem_of_find hy)
      exact hread x b hb
  | _ => cases hentries

/-! ## Records -/

variable {σ : Type} {fields : List (Field Tree σ)} {shapes : List (String × Shape)}

/-- The field takes in only what fits the shape. -/
def GuardsField (f : Field Tree σ) (s : Shape) : Prop := ∀ x r r', f.read x r = .ok r' → s.Fits x

/-- The fields are those of the shapes, in their order, and keep to them. -/
def GuardFields (fields : List (Field Tree σ)) (shapes : List (String × Shape)) : Prop :=
  List.Forall₂ (fun f e => f.name = e.1 ∧ GuardsField f e.2) fields shapes

theorem GuardFields.find (h : GuardFields fields shapes) {name : String}
    (hs : NameMap.find name shapes = some s) :
    ∃ f, Format.fieldOf? fields name = some f ∧ GuardsField f s := by
  induction h with
  | nil => cases hs
  | @cons f e fields shapes hfe _ ih =>
    obtain ⟨hname, hguards⟩ := hfe
    by_cases heq : name = e.1
    · rw [NameMap.find, if_pos heq] at hs
      cases hs
      refine ⟨f, ?_, hguards⟩
      rw [Format.fieldOf?, List.find?_cons_of_pos (by simp [hname, heq])]
    · rw [NameMap.find, if_neg heq] at hs
      obtain ⟨f', hf', hguards'⟩ := ih hs
      refine ⟨f', ?_, hguards'⟩
      rw [Format.fieldOf?, List.find?_cons_of_neg (by simpa [hname] using Ne.symm heq)]
      exact hf'

theorem GuardFields.get (h : GuardFields fields shapes) {n : Nat} {e : String × Shape}
    (he : shapes[n]? = some e) : ∃ f, fields[n]? = some f ∧ GuardsField f e.2 := by
  induction h generalizing n with
  | nil => cases he
  | @cons f e' fields shapes hfe _ ih =>
    cases n with
    | zero =>
      cases he
      exact ⟨f, rfl, hfe.2⟩
    | succ n => exact ih he

theorem guardsField_of_takes {f : Field Tree σ} {put : α → σ → σ}
    (hf : Format.Takes f read put) (hread : s.Guards read) : GuardsField f s := by
  intro x r r' h
  obtain ⟨a, ha, -⟩ := hf.eq_ok.1 h
  exact hread x a ha

/-- The fields of a table that is read as a record can each be read. -/
theorem exists_of_readFields : ∀ {es : List (String × Tree)} {r r' : σ × List String},
    (Json.treeEntries es).list.foldlM (Layers.format.takeField fields) r = .ok r' →
    ∀ e ∈ es, ∀ f, Format.fieldOf? fields e.1 = some f → ∃ q q', f.read e.2 q = .ok q'
  | [], _, _, _, e, he => by cases he
  | (key, x) :: es, (q, seen), r', h, e, he => by
    intro f hf
    obtain ⟨r₁, hstep, hrest⟩ := Except.bind_eq_ok.1 h
    rcases List.mem_cons.1 he with heq | he
    · rw [heq] at hf ⊢
      have hstep : Layers.format.takeField fields (q, seen) (pure key, x) = .ok r₁ := hstep
      by_cases hseen : key ∈ seen
      · rw [Format.takeField, pure_bind, show fields.find? (·.name == key) = some f from hf] at hstep
        simp only [List.contains_eq_mem, hseen, decide_true, if_true] at hstep
        obtain ⟨_, hthrow, -⟩ := Except.bind_eq_ok.1 hstep
        cases hthrow
      · rw [show (pure key : Except ReadError String) = .ok key from rfl,
          Format.takeField_some hf hseen] at hstep
        obtain ⟨q', hq', -⟩ := Except.bind_eq_ok.1 hstep
        exact ⟨q, q', hq'⟩
    · exact exists_of_readFields hrest e he f hf

/-- The fields of a list that is read as a record can each be read. -/
theorem exists_of_readPositions {name : String} {arity total : Nat} {ending : Except ReadError Unit} :
    ∀ {fields : List (Field Tree σ)} {xs : List Tree} {r r' : σ},
      Layers.format.readPositions name arity total fields r ⟨xs, ending⟩ = .ok r' →
      ∀ (n : Nat) (f : Field Tree σ) (x : Tree), fields[n]? = some f → xs[n]? = some x →
        ∃ q q', f.read x q = .ok q'
  | [], _, _, _, _, n, f, x, hf, _ => by cases hf
  | field :: fields, [], _, _, _, n, f, x, _, hx => by cases hx
  | field :: fields, y :: ys, r, r', h, n, f, x, hf, hx => by
    rw [Format.readPositions] at h
    obtain ⟨r₁, hr₁, hrest⟩ := Except.bind_eq_ok.1 h
    cases n with
    | zero =>
      cases hf
      cases hx
      exact ⟨r, r₁, hr₁⟩
    | succ n => exact exists_of_readPositions hrest n f x hf hx

theorem guards_record (hfields : GuardFields fields shapes) (name : String) (init : σ)
    (required : List String) :
    (Shape.record shapes required).Guards (Layers.format.readRecord name fields init) := by
  intro t r h
  obtain ⟨parts, hparts, h⟩ := Except.bind_eq_ok.1 h
  cases t with
  | list ts =>
    cases hparts
    refine fits_of (fun _ => rfl) ?_
    intro step s' x hs' hx
    match step with
    | .key name => cases hx
    | .index (.ofNat n) =>
      obtain ⟨y, hy, hx⟩ := Option.bind_eq_some_iff.1 hx
      cases hx
      obtain ⟨e, he, rfl⟩ := Option.map_eq_some_iff.1 hs'
      obtain ⟨f, hf, hguards⟩ := hfields.get he
      obtain ⟨q, q', hq⟩ := exists_of_readPositions h n f x hf hy
      exact hguards x q q' hq
  | table es =>
    cases hparts
    obtain ⟨⟨q₀, seen⟩, hfold, -⟩ := Except.bind_eq_ok.1 h
    obtain ⟨q₁, hfold, -⟩ := Except.bind_eq_ok.1 hfold
    refine fits_of (fun _ => rfl) ?_
    intro step s' x hs' hx
    match step with
    | .key k =>
      obtain ⟨y, hy, hx⟩ := Option.bind_eq_some_iff.1 hx
      cases hx
      obtain ⟨f, hf, hguards⟩ := hfields.find hs'
      obtain ⟨q, q', hq⟩ := exists_of_readFields hfold (k, x) (NameMap.mem_of_find hy) f hf
      exact hguards x q q' hq
    | .index (.ofNat n) => cases hx
  | _ => cases hparts

/-! ## Settings -/

theorem guards_claim (required : List String) : (claim required).Guards Layers.format.readClaim := by
  refine guards_record ?_ _ _ _
  exact .cons ⟨rfl, guardsField_of_takes (fun _ _ => rfl) guards_text⟩
    (.cons ⟨rfl, guardsField_of_takes (fun _ _ => rfl) guards_names⟩ .nil)

theorem guards_rule : rule.Guards Layers.format.readRule := by
  refine guards_record ?_ _ _ _
  exact .cons ⟨rfl, guardsField_of_takes (fun _ _ => rfl) guards_names⟩
    (.cons ⟨rfl, guardsField_of_takes (fun _ _ => rfl) guards_names⟩
    (.cons ⟨rfl, guardsField_of_takes (fun _ _ => rfl) (guards_option guards_names)⟩
    (.cons ⟨rfl, guardsField_of_takes (fun _ _ => rfl) (guards_option guards_names)⟩
    (.cons ⟨rfl, guardsField_of_takes (fun _ _ => rfl) (guards_option (guards_claim []))⟩
    (.cons ⟨rfl, guardsField_of_takes (fun _ _ => rfl)
      (guards_option (guards_list (guards_claim ["type"])))⟩ .nil)))))

theorem guards_logging : logging.Guards Layers.format.readLogging := by
  refine guards_record ?_ _ _ _
  exact .cons ⟨rfl, guardsField_of_takes (fun _ _ => rfl) guards_text⟩
    (.cons ⟨rfl, guardsField_of_takes (fun _ _ => rfl) guards_bool⟩ .nil)

theorem guards_settings : settings.Guards Layers.format.readSettings := by
  refine guards_record ?_ _ _ _
  exact .cons ⟨rfl, guardsField_of_takes (fun _ _ => rfl) guards_names⟩
    (.cons ⟨rfl, guardsField_of_takes (fun _ _ => rfl) guards_logging⟩
    (.cons ⟨rfl, guardsField_of_takes (fun _ _ => rfl) (guards_map guards_rule)⟩ .nil))

end Shape

/-- A value is at a spot of settings where something of another sort is wanted. -/
def Tree.Misfit (v : Tree) (spot : List PathStep) : Prop :=
  v ≠ .null ∧ ∃ s, Shape.settings.at? spot = some s ∧ s.takes v = false

theorem Tree.Misfit.like {v w : Tree} {spot : List PathStep} (h : v.Misfit spot) (hlike : v.Like w) :
    w.Misfit spot := by
  obtain ⟨hnull, s, hs, htakes⟩ := h
  refine ⟨?_, s, hs, ?_⟩
  · intro hw
    rw [hw] at hlike
    cases v <;> first | exact hnull rfl | cases hlike
  · rw [Shape.takes_of_like hlike, htakes]

/-- **Settings with a value of the wrong type cannot be read.** -/
theorem Stack.settings_of_misfit {t v : Tree} {spot : List PathStep} (hv : t.part? spot = some v)
    (hmisfit : v.Misfit spot) : Stack.settings t = .error .badSettings := by
  obtain ⟨hnull, s, hs, htakes⟩ := hmisfit
  cases hresult : Stack.settings t with
  | error e => rw [Stack.settings_eq_error hresult]
  | ok c =>
    have hread := Stack.settings_eq_ok_iff.1 hresult
    have hfits := Shape.guards_settings t c hread spot s v hs hv hnull
    rw [htakes] at hfits
    cases hfits

end AccessPolicy
