/-
Reading records from tables: which entry a field of the result comes from, and
what has to be in order for there to be a result.

A table is read entry by entry (`takeField`). As long as no key stands there
twice, a field takes its value from the entry of its name or keeps the default
(`readRecord_entry`), and there is a result exactly if the entry of every field
can be read and no required field is missing (`exists_readRecord_iff`). Both
are stated for any notation, of which they use only that it reads the keys and
passes over what is no field.
-/
import AccessPolicy.Document.Format

namespace AccessPolicy

theorem Except.bind_eq_ok {ε α β : Type} {x : Except ε α} {f : α → Except ε β} {b : β} :
    (x >>= f) = .ok b ↔ ∃ a, x = .ok a ∧ f a = .ok b := by
  cases x with
  | error e => exact ⟨nofun, fun ⟨_, h, _⟩ => nomatch h⟩
  | ok a => exact ⟨fun h => ⟨a, rfl, h⟩, fun ⟨_, h, hf⟩ => by cases h; exact hf⟩

theorem Except.pure_eq_ok {ε α : Type} {a b : α} : (pure a : Except ε α) = .ok b ↔ a = b := by
  simp [pure, Except.pure]

theorem Except.mapError_eq_ok {ε ε' α : Type} {f : ε → ε'} {x : Except ε α} {a : α} :
    x.mapError f = .ok a ↔ x = .ok a := by
  cases x with
  | error e => exact ⟨nofun, nofun⟩
  | ok b => exact ⟨fun h => by cases h; rfl, fun h => by cases h; rfl⟩

/-- A table without faults. -/
def Entries.ofList {ν : Type} (es : List (String × ν)) : Entries ν where
  list := es.map fun e => (.ok e.1, e.2)

theorem NameMap.find_eq_none_iff {α : Type} {k : String} {l : List (String × α)} :
    NameMap.find k l = none ↔ ∀ e ∈ l, e.1 ≠ k := by
  induction l with
  | nil => simp [NameMap.find]
  | cons e l ih =>
    by_cases hk : k = e.1
    · simp [NameMap.find, hk]
    · simp [NameMap.find, hk, ih, Ne.symm hk]

theorem NameMap.find_eq_some_of_nodup {α : Type} {e : String × α} {l : List (String × α)}
    (h : (l.map (·.1)).Nodup) (he : e ∈ l) : NameMap.find e.1 l = some e.2 := by
  induction l with
  | nil => cases he
  | cons e' l ih =>
    obtain ⟨hnot, hl⟩ := List.nodup_cons.1 h
    rcases List.mem_cons.1 he with rfl | he
    · simp [NameMap.find]
    · have hne : ¬ e.1 = e'.1 := fun heq => hnot (List.mem_map.2 ⟨e, he, heq⟩)
      simp only [NameMap.find, hne, if_false]
      exact ih hl he

namespace Format

variable {ν σ β : Type} {F : Format ν} {fields : List (Field ν σ)}

/-- The field of a name. -/
def fieldOf? (fields : List (Field ν σ)) (key : String) : Option (Field ν σ) :=
  fields.find? (·.name == key)

theorem fieldOf?_eq_some {key : String} {field : Field ν σ} (h : fieldOf? fields key = some field) :
    field ∈ fields ∧ field.name = key :=
  ⟨List.mem_of_find?_eq_some h, by simpa using List.find?_some h⟩

theorem takeField_none {key : String} {x : ν} {r : σ} {seen : List String}
    (h : fieldOf? fields key = none) :
    F.takeField fields (r, seen) (.ok key, x) = (do F.pass x; return (r, seen)) := by
  show takeField F fields (r, seen) (pure key, x) = _
  rw [takeField, pure_bind, show fields.find? (·.name == key) = none from h]

theorem takeField_some {key : String} {x : ν} {r : σ} {seen : List String} {field : Field ν σ}
    (h : fieldOf? fields key = some field) (hseen : key ∉ seen) :
    F.takeField fields (r, seen) (.ok key, x) = (do return (← field.read x r, key :: seen)) := by
  have hc : seen.contains key = false := by simpa using hseen
  show takeField F fields (r, seen) (pure key, x) = _
  rw [takeField, pure_bind, show fields.find? (·.name == key) = some field from h]
  simp only [hc]
  rfl

/-! ## Entry by entry -/

/-- A step of reading: what it is for an entry that is no field, and for one
that is. -/
theorem takeField_eq_ok {key : String} {x : ν} {s s' : σ × List String} (hseen : key ∉ s.2)
    (h : F.takeField fields s (.ok key, x) = .ok s') :
    (fieldOf? fields key = none ∧ s' = s) ∨
      ∃ field, fieldOf? fields key = some field ∧ field.read x s.1 = .ok s'.1 ∧
        s'.2 = key :: s.2 := by
  obtain ⟨r, seen⟩ := s
  cases hf : fieldOf? fields key with
  | none =>
    rw [takeField_none hf] at h
    obtain ⟨_, -, h⟩ := Except.bind_eq_ok.1 h
    exact .inl ⟨rfl, (Except.pure_eq_ok.1 h).symm⟩
  | some field =>
    rw [takeField_some hf hseen] at h
    obtain ⟨r', hr', h⟩ := Except.bind_eq_ok.1 h
    cases Except.pure_eq_ok.1 h
    exact .inr ⟨field, rfl, hr', rfl⟩

/-- The keys of the entries are different from each other and from those seen. -/
def Fresh (seen : List String) (es : List (String × ν)) : Prop :=
  (es.map (·.1)).Nodup ∧ ∀ e ∈ es, e.1 ∉ seen

theorem Fresh.tail {seen seen' : List String} {e : String × ν} {es : List (String × ν)}
    (h : Fresh seen (e :: es)) (hs : seen' = seen ∨ seen' = e.1 :: seen) : Fresh seen' es := by
  obtain ⟨hnodup, hnot⟩ := h
  obtain ⟨he, hes⟩ := List.nodup_cons.1 hnodup
  refine ⟨hes, fun e' he' => ?_⟩
  rcases hs with rfl | rfl
  · exact hnot e' (by simp [he'])
  · rw [List.mem_cons, not_or]
    refine ⟨fun heq => he ?_, hnot e' (by simp [he'])⟩
    exact List.mem_map.2 ⟨e', he', heq⟩

/-- The fields that were there are the entries that are fields. -/
theorem foldlM_takeField_seen : ∀ {es : List (String × ν)} {s s' : σ × List String},
    Fresh s.2 es → (Entries.ofList es).list.foldlM (F.takeField fields) s = .ok s' →
    ∀ k, k ∈ s'.2 ↔ k ∈ s.2 ∨ ((∃ e ∈ es, e.1 = k) ∧ ∃ f, fieldOf? fields k = some f)
  | [], s, s', _, h => by
    cases h
    simp
  | (key, x) :: es, s, s', hfresh, h => by
    obtain ⟨s₁, hstep, hrest⟩ := Except.bind_eq_ok.1 h
    have hkey : key ∉ s.2 := hfresh.2 (key, x) (by simp)
    intro k
    rcases takeField_eq_ok hkey hstep with ⟨hnone, rfl⟩ | ⟨field, hsome, -, hs₁⟩
    · rw [foldlM_takeField_seen (hfresh.tail (.inl rfl)) hrest k]
      by_cases hk : key = k
      · subst hk; simp [hnone]
      · simp [hk]
    · rw [foldlM_takeField_seen (hfresh.tail (.inr hs₁)) hrest k, hs₁]
      by_cases hk : key = k
      · subst hk; simp [hsome]
      · simp [hk, Ne.symm hk]

/-- A part of the record that only the field of some name writes comes from the
entry of that name, or is what it was. -/
theorem foldlM_takeField_field {π : σ → β} {V : ν → β → Prop} {name : String} {own : Field ν σ}
    (hname : fieldOf? fields name = some own)
    (hown : ∀ x r r', own.read x r = .ok r' → V x (π r'))
    (hother : ∀ f ∈ fields, f.name ≠ name → ∀ x r r', f.read x r = .ok r' → π r' = π r) :
    ∀ {es : List (String × ν)} {s s' : σ × List String}, Fresh s.2 es →
      (Entries.ofList es).list.foldlM (F.takeField fields) s = .ok s' →
      match NameMap.find name es with
      | none => π s'.1 = π s.1
      | some x => V x (π s'.1)
  | [], s, s', _, h => by
    cases h
    rfl
  | (key, x) :: es, s, s', hfresh, h => by
    obtain ⟨s₁, hstep, hrest⟩ := Except.bind_eq_ok.1 h
    have hkey : key ∉ s.2 := hfresh.2 (key, x) (by simp)
    have hnone : NameMap.find key es = none := by
      rw [NameMap.find_eq_none_iff]
      exact fun e he heq => (List.nodup_cons.1 hfresh.1).1 (List.mem_map.2 ⟨e, he, heq⟩)
    rcases takeField_eq_ok hkey hstep with ⟨hf, rfl⟩ | ⟨field, hf, hread, hs₁⟩
    · have ih := foldlM_takeField_field hname hown hother (hfresh.tail (.inl rfl)) hrest
      have hne : ¬ name = key := fun he => by rw [he, hf] at hname; cases hname
      simpa only [NameMap.find, hne, if_false] using ih
    · have ih := foldlM_takeField_field hname hown hother (hfresh.tail (.inr hs₁)) hrest
      by_cases hk : name = key
      · subst hk
        rw [hname] at hf
        cases hf
        rw [hnone] at ih
        simp only [NameMap.find, if_true]
        rw [ih]
        exact hown x _ _ hread
      · obtain ⟨hmem, hfname⟩ := fieldOf?_eq_some hf
        have hkeep : π s₁.1 = π s.1 := hother field hmem (hfname ▸ Ne.symm hk) _ _ _ hread
        rw [hkeep] at ih
        simpa only [NameMap.find, hk, if_false] using ih

/-! ## Whole records -/

/-- Whether a field can take the value in, whatever has been read before. -/
def Accepts (field : Field ν σ) (x : ν) : Prop := ∀ r, ∃ r', field.read x r = .ok r'

/-- The field reads its value by itself, and then puts it in. -/
def Takes {α : Type} (field : Field ν σ) (read : ν → Except ReadError α) (put : α → σ → σ) : Prop :=
  ∀ x r, field.read x r = (do return put (← read x) r)

/-- Whether the value of a field can be read does not depend on what has been
read before. -/
def Uniform (fields : List (Field ν σ)) : Prop :=
  ∀ f ∈ fields, ∃ (α : Type) (read : ν → Except ReadError α) (put : α → σ → σ), Takes f read put

section

variable {α : Type} {field : Field ν σ} {read : ν → Except ReadError α} {put : α → σ → σ}

theorem Takes.eq_ok (h : Takes field read put) {x : ν} {r r' : σ} :
    field.read x r = .ok r' ↔ ∃ a, read x = .ok a ∧ r' = put a r := by
  rw [h, Except.bind_eq_ok]
  refine exists_congr fun a => and_congr_right fun _ => ?_
  rw [Except.pure_eq_ok]
  exact eq_comm

theorem Takes.accepts (h : Takes field read put) {x : ν} {a : α} (ha : read x = .ok a) :
    Accepts field x := fun r => ⟨put a r, h.eq_ok.2 ⟨a, ha, rfl⟩⟩

end

theorem Uniform.accepts (hfields : Uniform fields) {field : Field ν σ} (hf : field ∈ fields) {x : ν}
    {r r' : σ} (h : field.read x r = .ok r') : Accepts field x := by
  obtain ⟨α, read, put, htakes⟩ := hfields field hf
  obtain ⟨a, ha, -⟩ := htakes.eq_ok.1 h
  exact htakes.accepts ha

theorem exists_foldlM_takeField (hpass : ∀ x, F.pass x = .ok ()) (hfields : Uniform fields) :
    ∀ {es : List (String × ν)} {s : σ × List String}, Fresh s.2 es →
      ((∃ s', (Entries.ofList es).list.foldlM (F.takeField fields) s = .ok s') ↔
        ∀ e ∈ es, ∀ f, fieldOf? fields e.1 = some f → Accepts f e.2)
  | [], s, _ => ⟨fun _ => by simp, fun _ => ⟨s, rfl⟩⟩
  | (key, x) :: es, (r, seen), hfresh => by
    have hkey : key ∉ seen := hfresh.2 (key, x) (by simp)
    rw [List.forall_mem_cons]
    constructor
    · rintro ⟨s', h⟩
      obtain ⟨s₁, hstep, hrest⟩ := Except.bind_eq_ok.1 h
      rcases takeField_eq_ok hkey hstep with ⟨hf, rfl⟩ | ⟨field, hf, hread, hs₁⟩
      · refine ⟨fun f hf' => ?_, ?_⟩
        · rw [hf] at hf'; cases hf'
        · exact (exists_foldlM_takeField hpass hfields (hfresh.tail (.inl rfl))).1 ⟨s', hrest⟩
      · refine ⟨fun f hf' => ?_, ?_⟩
        · rw [hf] at hf'; cases hf'
          exact hfields.accepts (fieldOf?_eq_some hf).1 hread
        · exact (exists_foldlM_takeField hpass hfields (hfresh.tail (.inr hs₁))).1 ⟨s', hrest⟩
    · rintro ⟨hx, hes⟩
      cases hf : fieldOf? fields key with
      | none =>
        obtain ⟨s', hs'⟩ := (exists_foldlM_takeField (s := (r, seen)) hpass hfields
          (hfresh.tail (.inl rfl))).2 hes
        refine ⟨s', Except.bind_eq_ok.2 ⟨(r, seen), ?_, hs'⟩⟩
        rw [takeField_none hf, hpass]
        rfl
      | some field =>
        obtain ⟨r', hr'⟩ := hx field hf r
        obtain ⟨s', hs'⟩ := (exists_foldlM_takeField (s := (r', key :: seen)) hpass hfields
          (hfresh.tail (.inr rfl))).2 hes
        refine ⟨s', Except.bind_eq_ok.2 ⟨(r', key :: seen), ?_, hs'⟩⟩
        rw [takeField_some hf hkey, hr']
        rfl

theorem missing?_eq_none_iff {seen : List String} :
    missing? fields seen = none ↔ ∀ f ∈ fields, f.required = true → f.name ∈ seen := by
  simp [missing?]

variable {name : String} {init : σ} {x : ν} {es : List (String × ν)}

theorem readRecord_eq_ok (hx : F.record name x = .ok (.inr (Entries.ofList es))) {r : σ} :
    F.readRecord name fields init x = .ok r ↔
      ∃ seen, (Entries.ofList es).list.foldlM (F.takeField fields) (init, []) = .ok (r, seen) ∧
        missing? fields seen = none := by
  rw [readRecord, hx]
  constructor
  · intro h
    obtain ⟨_, hentries, h⟩ := Except.bind_eq_ok.1 h
    cases hentries
    obtain ⟨⟨r', seen⟩, hfields, h⟩ := Except.bind_eq_ok.1 h
    obtain ⟨s, hfold, hs⟩ := Except.bind_eq_ok.1 hfields
    cases hs
    cases hm : missing? fields seen with
    | some field => simp [hm] at h
    | none =>
      simp only [hm] at h
      cases h
      exact ⟨seen, hfold, hm⟩
  · rintro ⟨seen, hfold, hm⟩
    refine Except.bind_eq_ok.2 ⟨_, rfl, Except.bind_eq_ok.2
      ⟨(r, seen), Except.bind_eq_ok.2 ⟨(r, seen), hfold, rfl⟩, ?_⟩⟩
    simp only [hm]
    rfl

/-- **When a table is a record.** The entries of all fields can be read, and
the required ones are there. -/
theorem exists_readRecord_iff (hpass : ∀ x, F.pass x = .ok ()) (hfields : Uniform fields)
    (hx : F.record name x = .ok (.inr (Entries.ofList es))) (hes : (es.map (·.1)).Nodup) :
    (∃ r, F.readRecord name fields init x = .ok r) ↔
      (∀ e ∈ es, ∀ f, fieldOf? fields e.1 = some f → Accepts f e.2) ∧
        ∀ f ∈ fields, f.required = true → ∃ e ∈ es, e.1 = f.name := by
  have hfresh : Fresh [] es := ⟨hes, by simp⟩
  rw [← exists_foldlM_takeField (s := (init, [])) hpass hfields hfresh]
  have hseen : ∀ {s : σ × List String},
      (Entries.ofList es).list.foldlM (F.takeField fields) (init, []) = .ok s →
      (missing? fields s.2 = none ↔ ∀ f ∈ fields, f.required = true → ∃ e ∈ es, e.1 = f.name) := by
    intro s hs
    rw [missing?_eq_none_iff]
    refine forall_congr' fun f => forall_congr' fun hf => forall_congr' fun _ => ?_
    have hof : ∃ g, fieldOf? fields f.name = some g :=
      Option.isSome_iff_exists.1 (List.find?_isSome.2 ⟨f, hf, by simp⟩)
    rw [foldlM_takeField_seen hfresh hs]
    simp [hof]
  constructor
  · rintro ⟨r, hr⟩
    obtain ⟨seen, hfold, hm⟩ := (readRecord_eq_ok hx).1 hr
    exact ⟨⟨_, hfold⟩, (hseen hfold).1 hm⟩
  · rintro ⟨⟨⟨r, seen⟩, hfold⟩, hreq⟩
    exact ⟨r, (readRecord_eq_ok hx).2 ⟨seen, hfold, (hseen hfold).2 hreq⟩⟩

/-! ## The fields of a record -/

/-- What is read from the entry of a key; the default, if there is no entry. -/
def EntryReads (read : ν → Except ReadError β) (default : β) (key : String)
    (es : List (String × ν)) (b : β) : Prop :=
  match NameMap.find key es with
  | none => b = default
  | some x => read x = .ok b

theorem EntryReads.unique {read : ν → Except ReadError β} {default : β} {key : String} {b b' : β}
    (h : EntryReads read default key es b) (h' : EntryReads read default key es b') : b = b' := by
  unfold EntryReads at h h'
  cases hk : NameMap.find key es with
  | none =>
    simp only [hk] at h h'
    rw [h, h']
  | some x =>
    simp only [hk] at h h'
    exact Except.ok.inj (h.symm.trans h')

theorem EntryReads.accepts {read : ν → Except ReadError β} {default : β} {key : String} {b : β}
    (h : EntryReads read default key es b) {field : Field ν σ} {put : β → σ → σ}
    (hfield : Takes field read put) {x : ν} (hx : NameMap.find key es = some x) :
    Accepts field x := by
  unfold EntryReads at h
  rw [hx] at h
  exact hfield.accepts h

/-- The field leaves a part of the record alone. -/
def Keeps (field : Field ν σ) (π : σ → β) : Prop :=
  ∀ x r r', field.read x r = .ok r' → π r' = π r

theorem Takes.keeps {α : Type} {field : Field ν σ} {read : ν → Except ReadError α}
    {put : α → σ → σ} (h : Takes field read put) {π : σ → β} (hπ : ∀ a r, π (put a r) = π r) :
    Keeps field π := by
  intro x r r' hr
  obtain ⟨a, -, rfl⟩ := h.eq_ok.1 hr
  exact hπ a r

/-- **A field of a record.** A part of the record that only the field of some
name writes is what the entry of that name says, or the default. -/
theorem readRecord_entry {π : σ → β} {read : ν → Except ReadError β} {put : β → σ → σ}
    {key : String} {own : Field ν σ} (hkey : fieldOf? fields key = some own)
    (hown : Takes own read put) (hput : ∀ b r, π (put b r) = b)
    (hother : ∀ f ∈ fields, f.name ≠ key → Keeps f π)
    (hx : F.record name x = .ok (.inr (Entries.ofList es))) (hes : (es.map (·.1)).Nodup) {r : σ}
    (h : F.readRecord name fields init x = .ok r) : EntryReads read (π init) key es (π r) := by
  obtain ⟨seen, hfold, -⟩ := (readRecord_eq_ok hx).1 h
  have hval : ∀ y r r', own.read y r = .ok r' → read y = .ok (π r') := by
    intro y r r' hr
    obtain ⟨b, hb, rfl⟩ := hown.eq_ok.1 hr
    rw [hput, hb]
  exact foldlM_takeField_field (V := fun y b => read y = .ok b) hkey hval hother
    (s := (init, [])) ⟨hes, by simp⟩ hfold

end Format

end AccessPolicy
