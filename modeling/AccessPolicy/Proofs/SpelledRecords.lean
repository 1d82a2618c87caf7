/-
Reading what is spelled: sets, maps and records, in any notation that takes the
values of documents for what they are (`Format.Follows`).

A record is read field by field, in whatever order the fields stand. Each field
that is there puts its own value in and leaves the others alone (`Slot`), so in
the end every field has its value: those that were there from the document,
the others from the defaults (`readRecord_of_spells`).
-/
import AccessPolicy.Proofs.Records
import AccessPolicy.Proofs.LastEntry
import AccessPolicy.Proofs.Spellings
import Mathlib.Data.List.Nodup

namespace AccessPolicy.Format

variable {ν σ α : Type}

/-- The notation takes each value of a document for what it is. -/
structure Follows (F : Format ν) (N : Forms ν) : Prop where
  null : ∀ {x}, N.IsNull x → F.isNull x = true
  text : ∀ {s x}, N.IsText s x → F.text x = .ok s
  bool : ∀ {b x}, N.IsBool b x → F.bool x = .ok b
  list : ∀ {xs x}, N.IsList xs x → F.list x = .ok ⟨xs, .ok ()⟩
  recordList : ∀ {xs x}, N.IsList xs x → ∀ name, F.record name x = .ok (.inl ⟨xs, .ok ()⟩)
  object : ∀ {es x}, N.IsObject es x → F.table x = .ok (Entries.ofList es)
  recordObject : ∀ {es x}, N.IsObject es x → ∀ name, F.record name x = .ok (.inr (Entries.ofList es))
  textPresent : ∀ {s x}, N.IsText s x → F.isNull x = false
  listPresent : ∀ {xs x}, N.IsList xs x → F.isNull x = false
  objectPresent : ∀ {es x}, N.IsObject es x → F.isNull x = false
  value : ∀ {x}, N.IsValue x → F.pass x = .ok ()
  beyond : ∀ total, F.beyond total ⟨[], .ok ()⟩ = .ok ()

variable {F : Format ν} {N : Forms ν} (hF : F.Follows N)

/-! ## Parts -/

/-- Whatever is spelled is there, and is read to what it spells. -/
def Reads (F : Format ν) (read : ν → Except ReadError α) (Spells : α → ν → Prop) : Prop :=
  ∀ {a x}, Spells a x → F.isNull x = false ∧ read x = .ok a

include hF

theorem Follows.reads_text : Reads F F.text N.IsText := fun h => ⟨hF.textPresent h, hF.text h⟩

theorem Follows.readOption {read : ν → Except ReadError α} {Spells : α → ν → Prop}
    (h : Reads F read Spells) {o : Option α} {x : ν} (hx : SpellsOption N Spells o x) :
    F.readOption read x = .ok o := by
  cases o with
  | none => rw [Format.readOption, if_pos (hF.null hx)]
  | some a =>
    obtain ⟨hpresent, hread⟩ := h hx
    rw [Format.readOption, if_neg (by simp [hpresent]), hread]
    rfl

theorem Follows.reads_items {read : ν → Except ReadError α} {Spells : α → ν → Prop}
    (h : Reads F read Spells) : Reads F (F.readList read) (SpellsItems N Spells) := by
  rintro as x ⟨xs, hxs, hforall⟩
  have hitems : xs.mapM read = .ok as := by
    clear hxs
    induction hforall with
    | nil => rfl
    | cons ha _ ih =>
      rw [List.mapM_cons, (h ha).2, ih]
      rfl
  refine ⟨hF.listPresent hxs, ?_⟩
  rw [readList, hF.list hxs]
  show (do let values ← xs.mapM read; Except.ok (); return values) = _
  rw [hitems]
  rfl

theorem Follows.reads_names : Reads F F.readNames (SpellsNames N) := by
  rintro s x ⟨names, hnames, hmem⟩
  obtain ⟨hpresent, hread⟩ := hF.reads_items hF.reads_text hnames
  refine ⟨hpresent, ?_⟩
  rw [readNames, hread]
  exact congrArg Except.ok (NameSet.ext fun n => NameSet.mem_ofList.trans (hmem n))

omit hF in
/-- Entries that are all read to what a map has under their keys. -/
theorem foldlM_insert_of_get? {read : ν → Except ReadError α} {m : NameMap α} :
    ∀ {es : List (String × ν)} (m₀ : NameMap α),
      (∀ e ∈ es, ∃ a, m.get? e.1 = some a ∧ read e.2 = .ok a) →
      ∃ m', (Entries.ofList es).list.foldlM (fun (m : NameMap α) e => do
          let key ← e.1
          return m.insert key (← read e.2)) m₀ = .ok m' ∧
        ∀ k, m'.get? k = if k ∈ es.map (·.1) then m.get? k else m₀.get? k
  | [], m₀, _ => ⟨m₀, rfl, fun _ => by simp⟩
  | (key, x) :: es, m₀, h => by
    obtain ⟨⟨a, ha, hread⟩, hes⟩ := List.forall_mem_cons.1 h
    obtain ⟨m', hm', hget⟩ := foldlM_insert_of_get? (m₀.insert key a) hes
    refine ⟨m', ?_, fun k => ?_⟩
    · show ((do return m₀.insert key (← read x)) >>= fun m₁ => _) = _
      rw [show read x = .ok a from hread]
      exact hm'
    · rw [hget, NameMap.get?_insert]
      simp only [List.map_cons, List.mem_cons]
      by_cases hk : k = key
      · subst hk
        simp [show m.get? k = some a from ha]
      · simp only [hk, false_or, if_false]

theorem Follows.reads_map (read : ν → Except ReadError α) {Spells : α → ν → Prop}
    (h : ∀ {a x}, Spells a x → read x = .ok a) : Reads F (F.readMap read) (SpellsMap N Spells) := by
  rintro m x ⟨es, hes, hperm, hvalues⟩
  refine ⟨hF.objectPresent hes, ?_⟩
  obtain ⟨m', hm', hget⟩ := foldlM_insert_of_get? (m := m) ∅ fun e he => by
    obtain ⟨a, ha, hspells⟩ := hvalues e he
    exact ⟨a, ha, h hspells⟩
  have hm : m' = m := by
    ext k
    rw [hget]
    split
    · rfl
    · rename_i hk
      rw [hperm.mem_iff, NameMap.mem_keys, NameMap.contains, Bool.not_eq_true,
        Option.isSome_eq_false_iff, Option.isNone_iff_eq_none] at hk
      rw [hk, NameMap.get?_empty]
  rw [readMap, hF.object hes]
  show (do let m ← (Entries.ofList es).list.foldlM _ ∅; Except.ok (); return m) = _
  rw [hm', hm]
  rfl

omit hF

/-! ## Records -/

/-- A field of a record together with the value that it is to have: how the
field is read, how the value is spelled, and how it is put into the record. -/
structure Slot (ν σ : Type) where
  field : Field ν σ
  form : FieldForm ν
  set : σ → σ

/-- The slots of some fields, given how they are spelled and how each value is put in. -/
def slots : List (Field ν σ) → List (FieldForm ν) → List (σ → σ) → List (Slot ν σ)
  | field :: fields, form :: forms, set :: sets => ⟨field, form, set⟩ :: slots fields forms sets
  | _, _, _ => []

/-- What is spelled is read to the value, and so is what is left out. -/
structure Slot.Sound (a : Slot ν σ) (init : σ) : Prop where
  name : a.field.name = a.form.name
  read : ∀ x s, a.form.Spells x → a.field.read x s = .ok (a.set s)
  omitted : a.form.Omittable → a.field.required = false ∧ a.set init = init
  again : ∀ s, a.set (a.set s) = a.set s

/-- The fields of a record, filled with the values of one record. A record that
has these values in all fields is that one. -/
structure Fills (slots : List (Slot ν σ)) (init r : σ) : Prop where
  sound : ∀ a ∈ slots, a.Sound init
  distinct : (slots.map (·.form.name)).Nodup
  comm : ∀ a ∈ slots, ∀ b ∈ slots, ∀ s, a.set (b.set s) = b.set (a.set s)
  whole : ∀ s, (∀ a ∈ slots, a.set s = s) → s = r

section

variable {field : Field ν σ} {read : ν → Except ReadError α} (put : α → σ → σ) {init : σ}
  {Spells : α → ν → Prop} {a : α}

/-- A field that has to be there. -/
theorem Slot.sound_required (htakes : Takes field read put)
    (hread : ∀ {x}, Spells a x → read x = .ok a) (hagain : ∀ s, put a (put a s) = put a s) :
    Slot.Sound ⟨field, .required field.name Spells a, put a⟩ init where
  name := rfl
  read _ _ hx := htakes.eq_ok.2 ⟨a, hread hx, rfl⟩
  omitted := nofun
  again := hagain

/-- A field that may be left out if it has the default value. -/
theorem Slot.sound_withDefault (htakes : Takes field read put)
    (hread : ∀ {x}, Spells a x → read x = .ok a) (hagain : ∀ s, put a (put a s) = put a s)
    {default : α} (hrequired : field.required = false) (hdefault : put default init = init) :
    Slot.Sound ⟨field, .withDefault field.name Spells default a, put a⟩ init where
  name := rfl
  read _ _ hx := htakes.eq_ok.2 ⟨a, hread hx, rfl⟩
  omitted ha := ⟨hrequired, (congrArg (put · init) ha).trans hdefault⟩
  again := hagain

end

variable {slots : List (Slot ν σ)} {init r : σ}

/-- The field of a name is that of the slot of that name. -/
theorem Fills.fieldOf? (h : Fills slots init r) {a : Slot ν σ} (ha : a ∈ slots) :
    fieldOf? (slots.map (·.field)) a.form.name = some a.field := by
  have hname := (h.sound a ha).name
  obtain ⟨field, hfield⟩ := Option.isSome_iff_exists.1 (List.find?_isSome.2
    ⟨a.field, List.mem_map_of_mem ha, by simp [hname]⟩ :
    ((slots.map (·.field)).find? (·.name == a.form.name)).isSome)
  obtain ⟨hmem, hfname⟩ := fieldOf?_eq_some hfield
  obtain ⟨b, hb, rfl⟩ := List.mem_map.1 hmem
  rw [(h.sound b hb).name] at hfname
  cases List.inj_on_of_nodup_map h.distinct hb ha hfname
  exact hfield

theorem Fills.fieldOf?_eq_none (h : Fills slots init r) {key : String}
    (hkey : key ∉ slots.map (·.form.name)) : Format.fieldOf? (slots.map (·.field)) key = none := by
  cases hf : Format.fieldOf? (slots.map (·.field)) key with
  | none => rfl
  | some field =>
    obtain ⟨hmem, hname⟩ := fieldOf?_eq_some hf
    obtain ⟨a, ha, rfl⟩ := List.mem_map.1 hmem
    rw [(h.sound a ha).name] at hname
    exact absurd (List.mem_map.2 ⟨a, ha, hname⟩) hkey

include hF

/-- Reading the fields of an object. Fields that had their values keep them, and
those that stand in the object get them. -/
theorem foldlM_takeField_of_spells (h : Fills slots init r) :
    ∀ {es : List (String × ν)} (s : σ) (seen : List String),
      (∀ e ∈ es, ∀ a ∈ slots, e.1 = a.form.name → a.form.Spells e.2) →
      (∀ e ∈ es, e.1 ∉ slots.map (·.form.name) → N.IsValue e.2) →
      (∀ a ∈ slots, (es.map (·.1)).count a.form.name + seen.count a.form.name ≤ 1) →
      ∃ s' seen', (Entries.ofList es).list.foldlM (F.takeField (slots.map (·.field))) (s, seen) =
          .ok (s', seen') ∧
        (∀ a ∈ slots, a.set s = s → a.set s' = s') ∧
        ∀ a ∈ slots, (a.form.name ∈ es.map (·.1) → a.set s' = s') ∧
          (a.form.name ∈ es.map (·.1) ∨ a.form.name ∈ seen → a.form.name ∈ seen')
  | [], s, seen, _, _, _ => ⟨s, seen, rfl, fun _ _ hs => hs, fun a _ => by simp⟩
  | (key, x) :: es, s, seen, hall, hrest, honce => by
    obtain ⟨hx, hspells⟩ := List.forall_mem_cons.1 hall
    obtain ⟨hxvalue, hvalue⟩ := List.forall_mem_cons.1 hrest
    by_cases hkey : key ∈ slots.map (·.form.name)
    · -- the field gets its value, which later entries leave alone
      obtain ⟨b, hb, rfl⟩ := List.mem_map.1 hkey
      have hseen : b.form.name ∉ seen := by
        have := honce b hb
        rw [List.map_cons, List.count_cons_self] at this
        rw [← List.count_eq_zero]
        omega
      have hstep : F.takeField (slots.map (·.field)) (s, seen) (.ok b.form.name, x) =
          .ok (b.set s, b.form.name :: seen) := by
        rw [takeField_some (h.fieldOf? hb) hseen, (h.sound b hb).read x s (hx b hb rfl)]
        rfl
      obtain ⟨s', seen', hfold, hkept, hthere⟩ :=
        foldlM_takeField_of_spells h (b.set s) (b.form.name :: seen) hspells hvalue
          fun a ha => by
            have := honce a ha
            rw [List.map_cons, List.count_cons] at this
            dsimp only at this
            rw [List.count_cons]
            omega
      refine ⟨s', seen', ?_, fun a ha hs => ?_, fun a ha => ⟨fun hmem => ?_, fun hmem => ?_⟩⟩
      · show (F.takeField _ (s, seen) (.ok b.form.name, x) >>= fun s₁ => _) = _
        rw [hstep]
        exact hfold
      · exact hkept a ha (by rw [h.comm a ha b hb, hs])
      · rcases List.mem_cons.1 hmem with heq | hmem
        · have hab : a = b := List.inj_on_of_nodup_map h.distinct ha hb heq
          rw [hab]
          exact hkept b hb ((h.sound b hb).again s)
        · exact (hthere a ha).1 hmem
      · refine (hthere a ha).2 ?_
        rw [List.map_cons, List.mem_cons] at hmem
        rw [List.mem_cons]
        tauto
    · -- an entry that is no field is passed over
      have hstep : F.takeField (slots.map (·.field)) (s, seen) (.ok key, x) = .ok (s, seen) := by
        rw [takeField_none (h.fieldOf?_eq_none hkey), hF.value (hxvalue hkey)]
        rfl
      have hne : ∀ a ∈ slots, a.form.name ≠ key := fun a ha heq =>
        hkey (List.mem_map.2 ⟨a, ha, heq⟩)
      obtain ⟨s', seen', hfold, hkept, hthere⟩ :=
        foldlM_takeField_of_spells h s seen hspells hvalue fun a ha => by
          have := honce a ha
          rwa [List.map_cons, List.count_cons_of_ne (hne a ha).symm] at this
      refine ⟨s', seen', ?_, hkept, fun a ha => ?_⟩
      · show (F.takeField _ (s, seen) (.ok key, x) >>= fun s₁ => _) = _
        rw [hstep]
        exact hfold
      · rw [List.map_cons, List.mem_cons, or_iff_right (hne a ha)]
        exact hthere a ha

/-- Reading the fields of a list. The fields that are missing have the defaults
already. -/
theorem readPositions_of_spells (h : Fills slots init r) (name : String) (arity total : Nat) :
    ∀ {slots' : List (Slot ν σ)} {xs : List ν} {s : σ}, (∀ a ∈ slots', a ∈ slots) →
      SpellsList (slots'.map (·.form)) xs →
      (∀ a ∈ slots, a.set init = init → a.set s = s) →
      ∃ s', F.readPositions name arity total (slots'.map (·.field)) s ⟨xs, .ok ()⟩ = .ok s' ∧
        (∀ a ∈ slots, a.set s = s → a.set s' = s') ∧ ∀ a ∈ slots', a.set s' = s'
  | [], [], s, _, _, _ => by
    refine ⟨s, ?_, fun _ _ hs => hs, by simp⟩
    show (do F.beyond total ⟨[], .ok ()⟩; return s) = _
    rw [hF.beyond]
    rfl
  | a :: slots', [], s, hsub, hspells, hinit => by
    have homitted : ∀ b ∈ a :: slots', b.field.required = false ∧ b.set init = init := fun b hb =>
      (h.sound b (hsub b hb)).omitted (hspells _ (List.mem_map_of_mem hb))
    refine ⟨s, ?_, fun _ _ hs => hs, fun b hb => hinit b (hsub b hb) (homitted b hb).2⟩
    have hany : ((a :: slots').map (·.field)).any (·.required) = false := by
      rw [List.any_eq_false]
      intro field hfield
      obtain ⟨b, hb, rfl⟩ := List.mem_map.1 hfield
      simp [(homitted b hb).1]
    show (if ((a :: slots').map (·.field)).any (·.required) then _ else _) = _
    rw [hany]
    rfl
  | a :: slots', x :: xs, s, hsub, ⟨hx, hxs⟩, hinit => by
    have ha := hsub a (by simp)
    obtain ⟨s', hs', hkept, hthere⟩ := readPositions_of_spells h name arity total (s := a.set s)
      (fun b hb => hsub b (by simp [hb])) hxs fun b hb hb' => by
        rw [h.comm b hb a ha, hinit b hb hb']
    refine ⟨s', ?_, fun b hb hs => hkept b hb (by rw [h.comm b hb a ha, hs]), ?_⟩
    · show (do F.readPositions name arity total _ (← a.field.read x s) ⟨xs, .ok ()⟩) = _
      rw [(h.sound a ha).read x s hx]
      exact hs'
    · rw [List.forall_mem_cons]
      exact ⟨hkept a ha ((h.sound a ha).again s), hthere⟩

/-- **Every spelling of a record is read to the record.** -/
theorem readRecord_of_spells (h : Fills slots init r) {name : String} {x : ν}
    (hx : SpellsRecord N (slots.map (·.form)) x) :
    F.readRecord name (slots.map (·.field)) init x = .ok r := by
  obtain ⟨es, hes, hfields, hvalues⟩ | ⟨xs, hxs, hspells⟩ := hx
  · have hin : ∀ a ∈ slots, a.form.In es := fun a ha => hfields _ (List.mem_map_of_mem ha)
    rw [List.map_map] at hvalues
    obtain ⟨s, seen, hfold, hkept, hthere⟩ := foldlM_takeField_of_spells hF h init []
      (fun e he a ha hname => (hin a ha).spelled e he hname) hvalues
      fun a ha => by simpa using (hin a ha).once
    have hs : s = r := h.whole s fun a ha => by
      by_cases hmem : a.form.name ∈ es.map (·.1)
      · exact (hthere a ha).1 hmem
      · exact hkept a ha ((h.sound a ha).omitted ((hin a ha).omitted hmem)).2
    refine (readRecord_eq_ok (hF.recordObject hes name)).2 ⟨seen, by rw [hfold, hs], ?_⟩
    rw [missing?_eq_none_iff]
    intro field hfield hrequired
    obtain ⟨a, ha, rfl⟩ := List.mem_map.1 hfield
    rw [(h.sound a ha).name]
    refine (hthere a ha).2 (.inl ?_)
    by_contra hmem
    rw [((h.sound a ha).omitted ((hin a ha).omitted hmem)).1] at hrequired
    cases hrequired
  · obtain ⟨s, hread, -, hthere⟩ := readPositions_of_spells hF h name
      (slots.map (·.field)).length xs.length (s := init) (fun a ha => ha) hspells fun _ _ hs => hs
    rw [readRecord, hF.recordList hxs name]
    show F.readPositions name _ xs.length _ init ⟨xs, .ok ()⟩ = _
    rw [hread, h.whole s hthere]

theorem Follows.present_of_spellsRecord {fields : List (FieldForm ν)} {x : ν}
    (hx : SpellsRecord N fields x) : F.isNull x = false := by
  obtain ⟨es, hes, -⟩ | ⟨xs, hxs, -⟩ := hx
  · exact hF.objectPresent hes
  · exact hF.listPresent hxs

end AccessPolicy.Format
