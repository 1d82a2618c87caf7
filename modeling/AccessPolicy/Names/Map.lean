/-
Finite maps from names, kept as the list of their entries with strictly
increasing keys, so that maps with the same entries are equal values.

`get?_insert` says what an insertion does to a look-up; `ext` says that the
look-ups determine the map.
-/
import AccessPolicy.Names.Set

namespace AccessPolicy

/-- A finite map from names to values. -/
structure NameMap (α : Type) where
  /-- The entries, smallest key first. -/
  toList : List (String × α)
  increasing : toList.Pairwise (·.1 < ·.1)
deriving DecidableEq

namespace NameMap

variable {α β : Type}

/-- The map without entries. -/
def empty : NameMap α := ⟨[], .nil⟩

instance : EmptyCollection (NameMap α) := ⟨empty⟩
instance : Inhabited (NameMap α) := ⟨empty⟩

@[simp] theorem toList_empty : (∅ : NameMap α).toList = [] := rfl

/-! ## Look-up -/

/-- The value that a list of entries holds first under a key. -/
def find (k : String) : List (String × α) → Option α
  | [] => none
  | (k', v) :: l => if k = k' then some v else find k l

theorem find_eq_none {k : String} {l : List (String × α)} (h : ∀ e ∈ l, k < e.1) :
    find k l = none := by
  induction l with
  | nil => rfl
  | cons e l ih =>
    have hne : ¬ k = e.1 := fun he => by
      have := h e (by simp)
      rw [← he] at this
      exact String.lt_irrefl _ this
    simp only [find, hne, if_false]
    exact ih fun e he => h e (List.mem_cons_of_mem _ he)

theorem mem_of_find {k : String} {v : α} {l : List (String × α)} (h : find k l = some v) :
    (k, v) ∈ l := by
  induction l with
  | nil => cases h
  | cons e l ih =>
    obtain ⟨k', v'⟩ := e
    by_cases hk : k = k'
    · subst hk
      simp only [find, if_true, Option.some.injEq] at h
      subst h
      exact List.mem_cons_self
    · simp only [find, hk, if_false] at h
      exact List.mem_cons_of_mem _ (ih h)

theorem find_eq_some {k : String} {v : α} {l : List (String × α)} (h : l.Pairwise (·.1 < ·.1)) :
    find k l = some v ↔ (k, v) ∈ l := by
  induction l with
  | nil => simp [find]
  | cons e l ih =>
    obtain ⟨k', v'⟩ := e
    have hl := List.pairwise_cons.1 h
    by_cases hk : k = k'
    · subst hk
      simp only [find, if_true, Option.some.injEq, List.mem_cons, Prod.mk.injEq, true_and]
      constructor
      · rintro rfl; exact .inl rfl
      · rintro (rfl | hm)
        · rfl
        · exact absurd (hl.1 _ hm) (String.lt_irrefl _)
    · simp [find, hk, ih hl.2]

/-- The value under a key, if there is an entry. -/
def get? (m : NameMap α) (k : String) : Option α := find k m.toList

/-- Whether there is an entry under the key. -/
def contains (m : NameMap α) (k : String) : Bool := (m.get? k).isSome

/-- The keys, smallest first. -/
def keys (m : NameMap α) : List String := m.toList.map (·.1)

/-- The values, in the order of their keys. -/
def values (m : NameMap α) : List α := m.toList.map (·.2)

/-- The number of entries. -/
def size (m : NameMap α) : Nat := m.toList.length

/-- Whether there are no entries. -/
def isEmpty (m : NameMap α) : Bool := m.toList.isEmpty

@[simp] theorem get?_empty (k : String) : (∅ : NameMap α).get? k = none := rfl

theorem get?_eq_some {m : NameMap α} {k : String} {v : α} : m.get? k = some v ↔ (k, v) ∈ m.toList :=
  find_eq_some m.increasing

theorem keys_increasing (m : NameMap α) : m.keys.Pairwise (· < ·) :=
  List.pairwise_map.2 m.increasing

theorem nodup_keys (m : NameMap α) : m.keys.Nodup := m.keys_increasing.imp String.ne_of_lt

theorem mem_keys {m : NameMap α} {k : String} : k ∈ m.keys ↔ m.contains k = true := by
  simp only [keys, List.mem_map, contains, Option.isSome_iff_exists, get?_eq_some]
  constructor
  · rintro ⟨⟨k, v⟩, h, rfl⟩; exact ⟨v, h⟩
  · rintro ⟨v, h⟩; exact ⟨(k, v), h, rfl⟩

/-! ## Insertion -/

/-- Puts an entry into its place, in the stead of an earlier one under its key. -/
def place (k : String) (v : α) : List (String × α) → List (String × α)
  | [] => [(k, v)]
  | (k', v') :: l =>
    if k < k' then (k, v) :: (k', v') :: l
    else if k = k' then (k, v) :: l
    else (k', v') :: place k v l

theorem key_mem_place {k x : String} {v : α} {l : List (String × α)} {w : α}
    (h : (x, w) ∈ place k v l) :
    x = k ∨ ∃ w, (x, w) ∈ l := by
  induction l with
  | nil => simp [place] at h; exact .inl h.1
  | cons e l ih =>
    simp only [place] at h
    split at h
    · rcases List.mem_cons.1 h with h | h
      · exact .inl (Prod.mk.inj h).1
      · exact .inr ⟨w, h⟩
    · split at h
      · rcases List.mem_cons.1 h with h | h
        · exact .inl (Prod.mk.inj h).1
        · exact .inr ⟨w, List.mem_cons_of_mem _ h⟩
      · rcases List.mem_cons.1 h with h | h
        · exact .inr ⟨w, by rw [h]; simp⟩
        · rcases ih h with h | ⟨w, h⟩
          · exact .inl h
          · exact .inr ⟨w, List.mem_cons_of_mem _ h⟩

theorem pairwise_place {k : String} {v : α} {l : List (String × α)} (h : l.Pairwise (·.1 < ·.1)) :
    (place k v l).Pairwise (·.1 < ·.1) := by
  induction l with
  | nil => simp [place]
  | cons e l ih =>
    have hl := List.pairwise_cons.1 h
    simp only [place]
    split
    · rename_i hlt
      refine List.pairwise_cons.2 ⟨fun x hx => ?_, h⟩
      rcases List.mem_cons.1 hx with rfl | hx
      · exact hlt
      · exact String.lt_trans hlt (hl.1 x hx)
    · rename_i hnl
      split
      · rename_i he
        exact List.pairwise_cons.2 ⟨fun x hx => he ▸ hl.1 x hx, hl.2⟩
      · rename_i hne
        refine List.pairwise_cons.2 ⟨fun x hx => ?_, ih hl.2⟩
        obtain ⟨x, w⟩ := x
        rcases key_mem_place hx with rfl | ⟨w', hx⟩
        · by_cases hlt : e.1 < x
          · exact hlt
          · exact absurd (String.le_antisymm (String.not_lt.1 hlt) (String.not_lt.1 hnl)) hne
        · exact hl.1 (x, w') hx

theorem find_place {k x : String} {v : α} {l : List (String × α)} :
    find x (place k v l) = if x = k then some v else find x l := by
  induction l with
  | nil => simp [place, find]
  | cons e l ih =>
    obtain ⟨k', v'⟩ := e
    simp only [place]
    split
    · simp [find]
    · split
      · rename_i hk; subst hk
        by_cases hx : x = k <;> simp [find, hx]
      · rename_i hk
        simp only [find, ih]
        by_cases hx : x = k'
        · subst hx; simp [Ne.symm hk]
        · simp [hx]

/-- The map with a value under a key, whatever stood there before. -/
def insert (m : NameMap α) (k : String) (v : α) : NameMap α :=
  ⟨place k v m.toList, pairwise_place m.increasing⟩

theorem get?_insert (m : NameMap α) (k x : String) (v : α) :
    (m.insert k v).get? x = if x = k then some v else m.get? x := find_place

/-- The entries of a list; of two under one key the later counts. -/
def ofList (l : List (String × α)) : NameMap α := l.foldl (fun m e => m.insert e.1 e.2) ∅

/-- The entries of the second map, and those of the first under other keys. -/
def override (m n : NameMap α) : NameMap α := n.toList.foldl (fun m e => m.insert e.1 e.2) m

/-- The map with every value replaced by its image. -/
def map (f : String → α → β) (m : NameMap α) : NameMap β :=
  ⟨m.toList.map fun e => (e.1, f e.1 e.2), List.pairwise_map.2 m.increasing⟩

theorem get?_map (f : String → α → β) (m : NameMap α) (k : String) :
    (m.map f).get? k = (m.get? k).map (f k) := by
  obtain ⟨l, h⟩ := m
  simp only [map, get?]
  clear h
  induction l with
  | nil => rfl
  | cons e l ih =>
    obtain ⟨k', v⟩ := e
    by_cases hk : k = k'
    · subst hk; simp [find]
    · simp [find, hk, ih]

/-! ## Look-ups determine the map -/

/-- Two maps that answer every look-up alike are the same value. -/
@[ext] theorem ext {m n : NameMap α} (h : ∀ k, m.get? k = n.get? k) : m = n := by
  obtain ⟨l, hl⟩ := m
  obtain ⟨l', hl'⟩ := n
  have : l = l' := eq_of_increasing Prod.fst hl hl' fun ⟨k, v⟩ => by
    have hk : find k l = find k l' := h k
    rw [← find_eq_some hl, ← find_eq_some hl', hk]
  subst this
  rfl

end NameMap

end AccessPolicy
