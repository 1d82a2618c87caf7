/-
Lists of entries as histories of a map: what counts under a key is the last
entry with it. `get?_ofList` says that collecting a list keeps exactly these.
-/
import AccessPolicy.Names.Map

namespace AccessPolicy.NameMap

variable {α β : Type}

/-- The value of the last entry under a key. -/
def last? (k : String) (l : List (String × α)) : Option α :=
  ((l.filter fun e => e.1 = k).getLast?).map (·.2)

@[simp] theorem last?_nil (k : String) : last? k ([] : List (String × α)) = none := rfl

theorem last?_append (k : String) (l l' : List (String × α)) :
    last? k (l ++ l') = (last? k l').or (last? k l) := by
  simp only [last?, List.filter_append, List.getLast?_append]
  cases (l'.filter fun e => e.1 = k).getLast? <;> rfl

theorem last?_singleton (k : String) (e : String × α) :
    last? k [e] = if e.1 = k then some e.2 else none := by
  by_cases h : e.1 = k <;> simp [last?, h]

theorem last?_cons (k : String) (e : String × α) (l : List (String × α)) :
    last? k (e :: l) = (last? k l).or (if e.1 = k then some e.2 else none) := by
  rw [← List.singleton_append, last?_append, last?_singleton]

theorem last?_eq_none_iff {k : String} {l : List (String × α)} :
    last? k l = none ↔ ∀ e ∈ l, e.1 ≠ k := by
  simp [last?]

/-- The last entry under a key is one with none under the key after it. -/
theorem last?_eq_some_iff {k : String} {v : α} {l : List (String × α)} :
    last? k l = some v ↔
      ∃ before after, l = before ++ (k, v) :: after ∧ ∀ e ∈ after, e.1 ≠ k := by
  constructor
  · intro h
    induction l with
    | nil => simp at h
    | cons e l ih =>
      rw [last?_cons] at h
      cases hl : last? k l with
      | some w =>
        rw [hl] at h
        obtain ⟨before, after, rfl, hafter⟩ := ih (hl.trans h)
        exact ⟨e :: before, after, rfl, hafter⟩
      | none =>
        rw [hl, Option.none_or] at h
        split at h
        · rename_i he
          obtain ⟨k', w⟩ := e
          simp only [Option.some.injEq] at he h
          subst he h
          exact ⟨[], l, rfl, last?_eq_none_iff.1 hl⟩
        · cases h
  · rintro ⟨before, after, rfl, hafter⟩
    rw [last?_append, last?_cons, last?_eq_none_iff.2 hafter]
    simp

/-- Of entries under different keys, the order does not matter. -/
theorem last?_perm {l l' : List (String × α)} (h : l.Perm l') (hkeys : (l.map (·.1)).Nodup)
    (k : String) : last? k l = last? k l' := by
  have hsome : ∀ {m : List (String × α)}, (m.map (·.1)).Nodup → ∀ v,
      last? k m = some v ↔ (k, v) ∈ m := by
    intro m hm v
    rw [last?_eq_some_iff]
    constructor
    · rintro ⟨before, after, rfl, -⟩
      simp
    · intro hmem
      obtain ⟨before, after, rfl⟩ := List.append_of_mem hmem
      refine ⟨before, after, rfl, fun e he heq => ?_⟩
      rw [List.map_append, List.map_cons, List.nodup_append, List.nodup_cons] at hm
      exact hm.2.1.1 (List.mem_map.2 ⟨e, he, heq⟩)
  refine Option.ext fun v => ?_
  rw [hsome hkeys, hsome ((h.map _).nodup hkeys), h.mem_iff]

theorem last?_map (f : String → α → β) (k : String) (l : List (String × α)) :
    last? k (l.map fun e => (e.1, f e.1 e.2)) = (last? k l).map (f k) := by
  induction l with
  | nil => rfl
  | cons e l ih =>
    rw [List.map_cons, last?_cons, last?_cons, ih]
    by_cases h : e.1 = k
    · subst h
      cases last? e.1 l <;> simp
    · cases last? k l <;> simp [h]

/-- Names that all have one value. -/
theorem last?_map_const (k : String) (v : α) (l : List String) :
    last? k (l.map fun n => (n, v)) = if k ∈ l then some v else none := by
  induction l with
  | nil => rfl
  | cons n l ih =>
    rw [List.map_cons, last?_cons, ih]
    by_cases hk : n = k
    · by_cases hl : k ∈ l <;> simp [hk, hl]
    · by_cases hl : k ∈ l <;> simp [hk, Ne.symm hk, hl]

theorem last?_filter {p : String → Bool} (k : String) (l : List (String × α)) :
    last? k (l.filter fun e => p e.1) = if p k then last? k l else none := by
  induction l with
  | nil => simp
  | cons e l ih =>
    by_cases hk : e.1 = k
    · cases hp : p k <;> simp [last?_cons, ih, hk, hp]
    · cases hp : p e.1 <;> simp [last?_cons, ih, hk, hp]

/-- Entries may be left out and their values changed as their names say. -/
theorem last?_filterMap (f : String → Option (α → β)) (k : String) (l : List (String × α)) :
    last? k (l.filterMap fun e => (f e.1).map fun g => (e.1, g e.2)) =
      (last? k l).bind fun v => (f k).map fun g => g v := by
  induction l with
  | nil => rfl
  | cons e l ih =>
    rw [List.filterMap_cons, last?_cons]
    by_cases hk : e.1 = k
    · subst hk
      cases hf : f e.1 with
      | none => simpa [hf] using ih
      | some g =>
        rw [Option.map_some, last?_cons, ih]
        cases last? e.1 l <;> simp [hf]
    · cases hf : f e.1 <;> simp [last?_cons, ih, hk]

/-! ## Maps collected from lists -/

theorem get?_foldl_insert (l : List (String × α)) (m : NameMap α) (k : String) :
    (l.foldl (fun m e => m.insert e.1 e.2) m).get? k = (last? k l).or (m.get? k) := by
  induction l generalizing m with
  | nil => rfl
  | cons e l ih =>
    rw [List.foldl_cons, ih, get?_insert, last?_cons, Option.or_assoc]
    by_cases h : e.1 = k
    · simp [h]
    · simp [h, Ne.symm h]

theorem get?_ofList (l : List (String × α)) (k : String) : (ofList l).get? k = last? k l := by
  rw [ofList, get?_foldl_insert, get?_empty, Option.or_none]

theorem mem_of_mem_ofList {l : List (String × α)} {e : String × α} (h : e ∈ (ofList l).toList) :
    e ∈ l := by
  have hget := get?_eq_some.2 h
  rw [get?_ofList] at hget
  obtain ⟨before, after, rfl, -⟩ := last?_eq_some_iff.1 hget
  simp

theorem ofList_append (l l' : List (String × α)) :
    ofList (l ++ l') = l'.foldl (fun m e => m.insert e.1 e.2) (ofList l) := List.foldl_append

/-- In the list of a map there is one entry for a key, so it is the last one. -/
theorem last?_toList (m : NameMap α) (k : String) : last? k m.toList = m.get? k := by
  cases h : m.get? k with
  | none =>
    rw [last?_eq_none_iff]
    rintro ⟨k', v⟩ he rfl
    rw [get?_eq_some.2 he] at h
    cases h
  | some v =>
    have hin := get?_eq_some.1 h
    obtain ⟨before, after, heq⟩ := List.append_of_mem hin
    refine last?_eq_some_iff.2 ⟨before, after, heq, fun e he => ?_⟩
    have hincr := m.increasing
    rw [heq, List.pairwise_append, List.pairwise_cons] at hincr
    have hlt : k < e.1 := hincr.2.1.1 e he
    exact fun hek => String.lt_irrefl k (hek ▸ hlt)

theorem last?_eq_find {l : List (String × α)} (h : l.Pairwise (·.1 < ·.1)) (k : String) :
    last? k l = find k l := last?_toList ⟨l, h⟩ k

/-- Leaving entries out by their names does not change which of those that stay is the last. -/
theorem toList_ofList_filter (p : String → Bool) (l : List (String × α)) :
    (ofList (l.filter fun e => p e.1)).toList = (ofList l).toList.filter fun e => p e.1 := by
  refine eq_of_increasing Prod.fst (increasing _) ((increasing _).filter _) ?_
  rintro ⟨k, x⟩
  rw [List.mem_filter, ← get?_eq_some, ← get?_eq_some, get?_ofList, get?_ofList, last?_filter]
  cases p k <;> simp

theorem toList_ofList_filterMap (f : String → Option (α → β)) (l : List (String × α)) :
    (ofList (l.filterMap fun e => (f e.1).map fun g => (e.1, g e.2))).toList =
      (ofList l).toList.filterMap fun e => (f e.1).map fun g => (e.1, g e.2) := by
  refine eq_of_increasing Prod.fst (increasing _) ?_ ?_
  · refine (ofList l).increasing.filterMap _ fun e e' hlt d hd d' hd' => ?_
    obtain ⟨g, -, rfl⟩ := Option.map_eq_some_iff.1 hd
    obtain ⟨g', -, rfl⟩ := Option.map_eq_some_iff.1 hd'
    exact hlt
  · rintro ⟨k, x⟩
    rw [← get?_eq_some, get?_ofList, last?_filterMap, ← get?_ofList, List.mem_filterMap]
    constructor
    · intro h
      obtain ⟨v, hv, h⟩ := Option.bind_eq_some_iff.1 h
      obtain ⟨g, hg, rfl⟩ := Option.map_eq_some_iff.1 h
      exact ⟨(k, v), get?_eq_some.1 hv, by rw [hg, Option.map_some]⟩
    · rintro ⟨⟨k', v⟩, hmem, h⟩
      obtain ⟨g, hg, heq⟩ := Option.map_eq_some_iff.1 h
      cases heq
      rw [get?_eq_some.2 hmem, Option.bind_some, hg, Option.map_some]

theorem contains_iff {m : NameMap α} {k : String} : m.contains k = true ↔ ∃ v, m.get? k = some v :=
  Option.isSome_iff_exists

theorem mem_keys_ofList {l : List (String × α)} {k : String} :
    k ∈ (ofList l).keys ↔ ∃ e ∈ l, e.1 = k := by
  rw [mem_keys, contains, get?_ofList, ← Option.ne_none_iff_isSome, Ne, last?_eq_none_iff]
  simp

end AccessPolicy.NameMap
