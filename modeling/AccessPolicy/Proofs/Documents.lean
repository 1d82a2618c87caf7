/-
Documents give ordered trees: in every table of the tree that a TOML text is
read to, each key stands once, and the keys increase (`Toml.ofText?_ordered`).
The same holds of the layer that a file makes up (`Layer.ofFile?_ordered`), so
that what is proved of ordered trees holds of all files.

The reader defines entry after entry in a section (`Section.Sound`); each
definition adds a value that has been read, and the keys are put in order when
the section becomes a tree.
-/
import AccessPolicy.Layers.Stack
import AccessPolicy.Proofs.Trees

namespace AccessPolicy

theorem Tree.Ordered.ofList {es : List (String × Tree)} (h : ∀ e ∈ es, e.2.Ordered) :
    Ordered (.table (NameMap.ofList es).toList) := by
  have hfold : ∀ (l : List (String × Tree)) (m : NameMap Tree), (∀ e ∈ l, e.2.Ordered) →
      Ordered (.table m.toList) →
      Ordered (.table (l.foldl (fun m e => m.insert e.1 e.2) m).toList) := by
    intro l
    induction l with
    | nil => intro m _ hm; exact hm
    | cons e l ih =>
      intro m hl hm
      exact ih _ (fun e' he' => hl e' (by simp [he'])) (hm.place e.1 (hl e (by simp)))
  exact hfold es ∅ h .empty

namespace Toml

/-! ## Sections -/

/-- All values in it are ordered. -/
inductive Item.Sound : Item → Prop where
  | value {t : Tree} : t.Ordered → Sound (.value t)
  | table {defined dotted : Bool} {es : List (String × Item)} : (∀ e ∈ es, Sound e.2) →
      Sound (.table defined dotted es)
  | tables {earlier : List (List (String × Item))} {last : List (String × Item)} :
      (∀ s ∈ earlier, ∀ e ∈ s, Sound e.2) → (∀ e ∈ last, Sound e.2) → Sound (.tables earlier last)

namespace Section

/-- All values in the section are ordered. -/
def Sound (s : Section) : Prop := ∀ e ∈ s, e.2.Sound

theorem Sound.nil : Sound [] := by simp [Sound]

theorem Sound.find? {s : Section} (h : s.Sound) {k : String} {i : Item} (hk : s.find? k = some i) :
    i.Sound := h (k, i) (NameMap.mem_of_find hk)

theorem Sound.table {s : Section} (h : s.Sound) {k : String} {defined dotted : Bool}
    {t : Section} (hk : s.find? k = some (.table defined dotted t)) : Sound t := by
  cases h.find? hk; assumption

theorem Sound.earlier {s : Section} (h : s.Sound) {k : String} {earlier : List Section}
    {last : Section} (hk : s.find? k = some (.tables earlier last)) : ∀ t ∈ earlier, Sound t := by
  cases h.find? hk; assumption

theorem Sound.last {s : Section} (h : s.Sound) {k : String} {earlier : List Section}
    {last : Section} (hk : s.find? k = some (.tables earlier last)) : Sound last := by
  cases h.find? hk; assumption

theorem Sound.put {s : Section} (h : s.Sound) {k : String} {i : Item} (hi : i.Sound) :
    Sound (s.put k i) := by
  induction s with
  | nil => simpa [Sound, Section.put] using hi
  | cons e s ih =>
    obtain ⟨k', i'⟩ := e
    obtain ⟨hi', hs⟩ := List.forall_mem_cons.1 h
    rw [Section.put]
    split
    · exact List.forall_mem_cons.2 ⟨hi, hs⟩
    · exact List.forall_mem_cons.2 ⟨hi', ih hs⟩

/-- A definition somewhere within a section leaves all values ordered if it
does where it is made. -/
theorem Sound.descend {define : Section → Option Section}
    (hdefine : ∀ s s', Sound s → define s = some s' → Sound s') :
    ∀ {ks : List String} {s s' : Section}, s.Sound → Section.descend define ks s = some s' →
      s'.Sound
  | [], s, s', hs, h => hdefine s s' hs h
  | k :: ks, s, s', hs, h => by
    rw [Section.descend] at h
    split at h
    · obtain ⟨t, ht, rfl⟩ := Option.map_eq_some_iff.1 h
      exact hs.put (.table (Sound.descend hdefine Sound.nil ht))
    · rename_i hk
      obtain ⟨t, ht, rfl⟩ := Option.map_eq_some_iff.1 h
      exact hs.put (.table (Sound.descend hdefine (hs.table hk) ht))
    · rename_i hk
      obtain ⟨t, ht, rfl⟩ := Option.map_eq_some_iff.1 h
      exact hs.put (.tables (hs.earlier hk) (Sound.descend hdefine (hs.last hk) ht))
    · cases h

theorem Sound.openTable {k : String} {s s' : Section} (hs : s.Sound)
    (h : s.openTable k = some s') : s'.Sound := by
  rw [Section.openTable] at h
  split at h
  · cases h
    exact hs.put (.table Sound.nil)
  · rename_i hk
    cases h
    exact hs.put (.table (hs.table hk))
  · cases h

theorem Sound.openElement {k : String} {s s' : Section} (hs : s.Sound)
    (h : s.openElement k = some s') : s'.Sound := by
  rw [Section.openElement] at h
  split at h
  · cases h
    exact hs.put (.tables (by simp) Sound.nil)
  · rename_i earlier last hk
    cases h
    refine hs.put (.tables ?_ Sound.nil)
    intro t ht
    rcases List.mem_append.1 ht with ht | ht
    · exact hs.earlier hk t ht
    · cases List.mem_singleton.1 ht
      exact hs.last hk
  · cases h

theorem Sound.assign {reach : KeyReach} {t : Tree} (ht : t.Ordered) :
    ∀ {ks : List String} {k : String} {s s' : Section}, s.Sound →
      s.assign reach t k ks = some s' → s'.Sound
  | [], k, s, s', hs, h => by
    rw [Section.assign] at h
    split at h
    · cases h
      exact hs.put (.value ht)
    · cases h
  | k' :: ks, k, s, s', hs, h => by
    rw [Section.assign] at h
    split at h
    · obtain ⟨u, hu, rfl⟩ := Option.map_eq_some_iff.1 h
      exact hs.put (.table (Sound.assign ht Sound.nil hu))
    · rename_i hk
      have hput : ∀ {dotted : Bool} {u : Section}, Section.assign reach t k' ks _ = some u →
          Sound (s.put k (.table false dotted u)) := fun hu =>
        hs.put (.table (Sound.assign ht (hs.table hk) hu))
      split at h
      · split at h
        · cases h
        · obtain ⟨u, hu, rfl⟩ := Option.map_eq_some_iff.1 h
          exact hput hu
      · obtain ⟨u, hu, rfl⟩ := Option.map_eq_some_iff.1 h
        exact hput hu
    · rename_i hk
      split at h
      · cases h
      · obtain ⟨u, hu, rfl⟩ := Option.map_eq_some_iff.1 h
        exact hs.put (.tables (hs.earlier hk) (Sound.assign ht (hs.last hk) hu))
    · cases h

mutual
theorem itemTree_ordered : ∀ {i : Item}, i.Sound → (itemTree i).Ordered
  | .value _, .value h => by simpa [itemTree] using h
  | .table _ _ es, .table h => by
    rw [itemTree]
    exact .ofList (sectionTrees_ordered es h)
  | .tables earlier last, .tables he hl => by
    rw [itemTree]
    refine .list fun t ht => ?_
    rcases List.mem_append.1 ht with ht | ht
    · exact tableTrees_ordered earlier he t ht
    · cases List.mem_singleton.1 ht
      exact .ofList (sectionTrees_ordered last hl)

theorem sectionTrees_ordered : ∀ s : Section, s.Sound → ∀ e ∈ sectionTrees s, e.2.Ordered
  | [], _ => by simp [sectionTrees]
  | (k, i) :: s, h => by
    obtain ⟨hi, hs⟩ := List.forall_mem_cons.1 h
    rw [sectionTrees]
    exact List.forall_mem_cons.2 ⟨itemTree_ordered hi, sectionTrees_ordered s hs⟩

theorem tableTrees_ordered : ∀ ss : List Section, (∀ s ∈ ss, Sound s) →
    ∀ t ∈ tableTrees ss, t.Ordered
  | [], _ => by simp [tableTrees]
  | s :: ss, h => by
    obtain ⟨hs, hss⟩ := List.forall_mem_cons.1 h
    rw [tableTrees]
    exact List.forall_mem_cons.2 ⟨.ofList (sectionTrees_ordered s hs), tableTrees_ordered ss hss⟩
end

theorem Sound.toTree {s : Section} (h : s.Sound) : s.toTree.Ordered :=
  .ofList (sectionTrees_ordered s h)

end Section

/-! ## Reading -/

variable {d : Dialect}

theorem scalar?_ordered {date : Datetime → Tree} (hd : ∀ x, (date x).Ordered) {l : List Char}
    {t : Tree} (h : scalar? date l = some t) : t.Ordered := by
  rw [scalar?] at h
  split at h
  · cases h
    exact .bool true
  · split at h
    · cases h
      exact .bool false
    · split at h
      · split at h
        · cases h
          exact .integer _
        · cases h
      · split at h
        · cases h
          exact .float _
        · obtain ⟨x, -, rfl⟩ := Option.map_eq_some_iff.1 h
          exact hd x

mutual
theorem value?_ordered (hd : ∀ x, (d.date x).Ordered) : ∀ {fuel levels : Nat} {l : List Char}
    {t : Tree} {r : List Char}, value? d fuel levels l = some (t, r) → t.Ordered
  | 0, _, _, _, _, h => by simp [value?] at h
  | fuel + 1, levels, l, t, r, h => by
    rw [value?.eq_def] at h
    simp only at h
    split at h
    · cases h
    · split at h
      · cases h
      · obtain ⟨⟨ts, r'⟩, hts, h⟩ := Option.bind_eq_some_iff.1 h
        cases h
        exact .list (items?_ordered hd (by simp) hts)
    · split at h
      · cases h
      · obtain ⟨⟨s, r'⟩, hs, h⟩ := Option.bind_eq_some_iff.1 h
        cases h
        exact (braces?_sound hd Section.Sound.nil hs).toTree
    · split at h
      · obtain ⟨⟨s, r'⟩, -, h⟩ := Option.map_eq_some_iff.1 h
        cases h
        exact .text s
      · obtain ⟨t', ht', h⟩ := Option.map_eq_some_iff.1 h
        cases h
        exact scalar?_ordered hd ht'

theorem items?_ordered (hd : ∀ x, (d.date x).Ordered) : ∀ {fuel levels : Nat}
    {done : List Tree} {l : List Char} {ts : List Tree} {r : List Char},
    (∀ t ∈ done, t.Ordered) → items? d fuel levels done l = some (ts, r) → ∀ t ∈ ts, t.Ordered
  | 0, _, _, _, _, _, _, h => by simp [items?] at h
  | fuel + 1, levels, done, l, ts, r, hdone, h => by
    rw [items?] at h
    obtain ⟨l₁, -, h⟩ := Option.bind_eq_some_iff.1 h
    split at h
    · cases h
      exact fun t ht => hdone t (List.mem_reverse.1 ht)
    · obtain ⟨⟨t, l₂⟩, ht, h⟩ := Option.bind_eq_some_iff.1 h
      have hmore : ∀ u ∈ t :: done, u.Ordered :=
        List.forall_mem_cons.2 ⟨value?_ordered hd ht, hdone⟩
      obtain ⟨l₃, -, h⟩ := Option.bind_eq_some_iff.1 h
      split at h
      · cases h
        exact fun u hu => hmore u (List.mem_reverse.1 hu)
      · exact items?_ordered hd hmore h
      · cases h

theorem braces?_sound (hd : ∀ x, (d.date x).Ordered) : ∀ {fuel levels : Nat} {s : Section}
    {l : List Char} {s' : Section} {r : List Char}, s.Sound →
    braces? d fuel levels s l = some (s', r) → s'.Sound
  | 0, _, _, _, _, _, _, h => by simp [braces?] at h
  | fuel + 1, levels, s, l, s', r, hs, h => by
    rw [braces?] at h
    obtain ⟨l₁, -, h⟩ := Option.bind_eq_some_iff.1 h
    split at h
    · cases h
      exact hs
    · obtain ⟨⟨before, last, l₂⟩, -, h⟩ := Option.bind_eq_some_iff.1 h
      obtain ⟨l₃, -, h⟩ := Option.bind_eq_some_iff.1 h
      split at h
      · obtain ⟨l₄, -, h⟩ := Option.bind_eq_some_iff.1 h
        obtain ⟨⟨t, l₅⟩, ht, h⟩ := Option.bind_eq_some_iff.1 h
        obtain ⟨s₁, hs₁, h⟩ := Option.bind_eq_some_iff.1 h
        have hmore := hs.assign (value?_ordered hd ht) hs₁
        obtain ⟨l₆, -, h⟩ := Option.bind_eq_some_iff.1 h
        split at h
        · cases h
          exact hmore
        · exact braces?_sound hd hmore h
        · cases h
      · cases h
end

theorem lines?_sound (hd : ∀ x, (d.date x).Ordered) : ∀ {fuel : Nat} {header : List String}
    {s : Section} {l : List Char} {s' : Section}, s.Sound →
    lines? d fuel header s l = some s' → s'.Sound
  | 0, _, _, _, _, _, h => by simp [lines?] at h
  | fuel + 1, header, s, l, s', hs, h => by
    rw [lines?] at h
    obtain ⟨l₁, -, h⟩ := Option.bind_eq_some_iff.1 h
    split at h
    · cases h
      exact hs
    · obtain ⟨⟨before, last, l₂⟩, -, h⟩ := Option.bind_eq_some_iff.1 h
      dsimp only at h
      split at h
      · obtain ⟨l₃, -, h⟩ := Option.bind_eq_some_iff.1 h
        obtain ⟨s₁, hs₁, h⟩ := Option.bind_eq_some_iff.1 h
        exact lines?_sound hd (hs.descend (fun _ _ h₀ => h₀.openElement) hs₁) h
      · cases h
    · obtain ⟨⟨before, last, l₂⟩, -, h⟩ := Option.bind_eq_some_iff.1 h
      dsimp only at h
      split at h
      · obtain ⟨l₃, -, h⟩ := Option.bind_eq_some_iff.1 h
        obtain ⟨s₁, hs₁, h⟩ := Option.bind_eq_some_iff.1 h
        exact lines?_sound hd (hs.descend (fun _ _ h₀ => h₀.openTable) hs₁) h
      · cases h
    · obtain ⟨⟨before, last, l₂⟩, -, h⟩ := Option.bind_eq_some_iff.1 h
      dsimp only at h
      split at h
      · obtain ⟨⟨t, l₃⟩, ht, h⟩ := Option.bind_eq_some_iff.1 h
        obtain ⟨l₄, -, h⟩ := Option.bind_eq_some_iff.1 h
        obtain ⟨s₁, hs₁, h⟩ := Option.bind_eq_some_iff.1 h
        have ht' := value?_ordered hd ht
        exact lines?_sound hd (hs.descend (fun _ _ h₀ => h₀.assign ht') hs₁) h
      · cases h

/-- **A document is an ordered tree.** No table has a key twice. -/
theorem ofText?_ordered (hd : ∀ x, (d.date x).Ordered) {s : String} {t : Tree}
    (h : ofText? d s = some t) : t.Ordered := by
  obtain ⟨s', hs', rfl⟩ := Option.map_eq_some_iff.1 h
  exact (lines?_sound hd Section.Sound.nil hs').toTree

end Toml

/-! ## Layers -/

namespace Layer

mutual
theorem value?_ordered : ∀ {t t' : Tree}, t.Ordered → value? t = some t' → t'.Ordered
  | .integer i, t', _, h => by
    rw [value?] at h
    split at h
    · cases h
      exact .integer i
    · cases h
  | .list ts, t', ht, h => by
    rw [value?] at h
    obtain ⟨us, hus, rfl⟩ := Option.map_eq_some_iff.1 h
    exact .list (values?_ordered ht.items hus)
  | .table es, t', ht, h => by
    rw [value?] at h
    obtain ⟨fs, hfs, rfl⟩ := Option.map_eq_some_iff.1 h
    obtain ⟨hkeys, hvalues⟩ := entries?_ordered ht.entries hfs
    have hes : (es.map (·.1)).Pairwise (· < ·) := List.pairwise_map.2 ht.increasing
    rw [← hkeys] at hes
    exact .table (List.pairwise_map.1 hes) hvalues
  | .null, t', ht, h | .bool _, t', ht, h | .float _, t', ht, h | .text _, t', ht, h => by
    cases h
    exact ht

theorem values?_ordered : ∀ {ts us : List Tree}, (∀ t ∈ ts, t.Ordered) → values? ts = some us →
    ∀ u ∈ us, u.Ordered
  | [], us, _, h => by
    cases h
    simp
  | t :: ts, us, ht, h => by
    obtain ⟨ht, hts⟩ := List.forall_mem_cons.1 ht
    obtain ⟨u, hu, h⟩ := Option.bind_eq_some_iff.1 h
    obtain ⟨us', hus', h⟩ := Option.bind_eq_some_iff.1 h
    cases h
    exact List.forall_mem_cons.2 ⟨value?_ordered ht hu, values?_ordered hts hus'⟩

theorem entries?_ordered : ∀ {es fs : List (String × Tree)}, (∀ e ∈ es, e.2.Ordered) →
    entries? es = some fs → fs.map (·.1) = es.map (·.1) ∧ ∀ f ∈ fs, f.2.Ordered
  | [], fs, _, h => by
    cases h
    simp
  | (key, t) :: es, fs, ht, h => by
    obtain ⟨ht, hes⟩ := List.forall_mem_cons.1 ht
    obtain ⟨u, hu, h⟩ := Option.bind_eq_some_iff.1 h
    obtain ⟨fs', hfs', h⟩ := Option.bind_eq_some_iff.1 h
    cases h
    obtain ⟨hkeys, hvalues⟩ := entries?_ordered hes hfs'
    exact ⟨by rw [List.map_cons, List.map_cons, hkeys],
      List.forall_mem_cons.2 ⟨value?_ordered ht hu, hvalues⟩⟩
end

/-- The layer of a file is the entries of an ordered table. -/
theorem ofFile?_ordered {content : Bytes} {layer : Layer} (h : ofFile? content = some layer) :
    Tree.Ordered (.table layer) := by
  obtain ⟨t, ht, h⟩ := Option.bind_eq_some_iff.1 h
  rw [ofTree?] at h
  split at h
  · rename_i es hes
    cases h
    exact value?_ordered (Toml.ofText?_ordered (fun _ => .text _) ht) hes
  · cases h

end Layer

end AccessPolicy
