/-
Finite sets of names, kept as the strictly increasing list of their members
(order by code point), so that equal sets are equal values and the order in
which a set is written out needs no sorting.

`mem_insert`, `mem_union` and `mem_ofList` say what the operations do to the
members; `ext` says that the members determine the set.
-/

namespace AccessPolicy

/-- A list with strictly increasing names is determined by its members. -/
theorem eq_of_increasing {α : Type} (name : α → String) {l m : List α}
    (hl : l.Pairwise (name · < name ·)) (hm : m.Pairwise (name · < name ·))
    (h : ∀ x, x ∈ l ↔ x ∈ m) : l = m := by
  have hnodup : ∀ {l : List α}, l.Pairwise (name · < name ·) → l.Nodup := fun hl =>
    hl.imp fun hlt => ne_of_apply_ne name (String.ne_of_lt hlt)
  have hperm : l.Perm m := (List.perm_ext_iff_of_nodup (hnodup hl) (hnodup hm)).2 fun x => h x
  exact hperm.eq_of_pairwise (fun _ _ _ _ hab hba => absurd hba (String.lt_asymm hab)) hl hm

/-- A finite set of names. -/
structure NameSet where
  /-- The members, smallest first. -/
  toList : List String
  increasing : toList.Pairwise (· < ·)
deriving DecidableEq

namespace NameSet

instance : Membership String NameSet := ⟨fun s n => n ∈ s.toList⟩

theorem mem_def {n : String} {s : NameSet} : n ∈ s ↔ n ∈ s.toList := Iff.rfl

instance (n : String) (s : NameSet) : Decidable (n ∈ s) :=
  inferInstanceAs (Decidable (n ∈ s.toList))

/-- The set without members. -/
def empty : NameSet := ⟨[], .nil⟩

instance : EmptyCollection NameSet := ⟨empty⟩
instance : Inhabited NameSet := ⟨empty⟩

@[simp] theorem toList_empty : (∅ : NameSet).toList = [] := rfl

@[simp] theorem not_mem_empty (n : String) : n ∉ (∅ : NameSet) := by simp [mem_def]

/-! ## Insertion -/

/-- Puts a name into its place in an increasing list, unless it is there. -/
def place (n : String) : List String → List String
  | [] => [n]
  | m :: ms => if n < m then n :: m :: ms else if n = m then m :: ms else m :: place n ms

theorem mem_place {n x : String} {l : List String} : x ∈ place n l ↔ x = n ∨ x ∈ l := by
  induction l with
  | nil => simp [place]
  | cons m ms ih =>
    simp only [place]
    split
    · simp
    · split
      · rename_i h; subst h; simp
      · simp only [List.mem_cons, ih]
        constructor
        · rintro (h | h | h) <;> simp [h]
        · rintro (h | h | h) <;> simp [h]

theorem pairwise_place {n : String} {l : List String} (h : l.Pairwise (· < ·)) :
    (place n l).Pairwise (· < ·) := by
  induction l with
  | nil => simp [place]
  | cons m ms ih =>
    have hm := List.pairwise_cons.1 h
    simp only [place]
    split
    · rename_i hlt
      refine List.pairwise_cons.2 ⟨fun x hx => ?_, h⟩
      rcases List.mem_cons.1 hx with rfl | hx
      · exact hlt
      · exact String.lt_trans hlt (hm.1 x hx)
    · rename_i hnl
      split
      · exact h
      · rename_i hne
        refine List.pairwise_cons.2 ⟨fun x hx => ?_, ih hm.2⟩
        rcases mem_place.1 hx with rfl | hx
        · by_cases hlt : m < x
          · exact hlt
          · exact absurd (String.le_antisymm (String.not_lt.1 hlt) (String.not_lt.1 hnl)) hne
        · exact hm.1 x hx

/-- The set with one more member. -/
def insert (s : NameSet) (n : String) : NameSet := ⟨place n s.toList, pairwise_place s.increasing⟩

@[simp] theorem mem_insert {s : NameSet} {n x : String} : x ∈ s.insert n ↔ x = n ∨ x ∈ s :=
  mem_place

/-- The members of a list, in whatever order and however often they stand there. -/
def ofList (l : List String) : NameSet := l.foldl insert ∅

theorem mem_foldl_insert {l : List String} {s : NameSet} {x : String} :
    x ∈ l.foldl insert s ↔ x ∈ s ∨ x ∈ l := by
  induction l generalizing s with
  | nil => simp
  | cons n l ih =>
    simp only [List.foldl_cons, ih, mem_insert, List.mem_cons]
    constructor
    · rintro ((h | h) | h) <;> simp [h]
    · rintro (h | h | h) <;> simp [h]

@[simp] theorem mem_ofList {l : List String} {x : String} : x ∈ ofList l ↔ x ∈ l := by
  simp [ofList, mem_foldl_insert]

/-- The members of either set. -/
def union (s t : NameSet) : NameSet := t.toList.foldl insert s

instance : Union NameSet := ⟨union⟩

@[simp] theorem mem_union {s t : NameSet} {x : String} : x ∈ s ∪ t ↔ x ∈ s ∨ x ∈ t :=
  mem_foldl_insert

/-! ## Questions -/

/-- Whether the name is a member. -/
def contains (s : NameSet) (n : String) : Bool := s.toList.contains n

@[simp] theorem contains_iff {s : NameSet} {n : String} : s.contains n = true ↔ n ∈ s := by
  simp [contains, mem_def]

/-- Whether the set has no members. -/
def isEmpty (s : NameSet) : Bool := s.toList.isEmpty

/-- The number of members. -/
def size (s : NameSet) : Nat := s.toList.length

/-! ## Members determine the set -/

/-- Two sets with the same members are the same value. -/
@[ext] theorem ext {s t : NameSet} (h : ∀ x, x ∈ s ↔ x ∈ t) : s = t := by
  obtain ⟨l, hl⟩ := s
  obtain ⟨m, hm⟩ := t
  have : l = m := eq_of_increasing id hl hm h
  subst this
  rfl

theorem toList_inj {s t : NameSet} : s.toList = t.toList ↔ s = t := by
  refine ⟨fun h => ext fun n => ?_, congrArg toList⟩
  rw [mem_def, mem_def, h]

theorem nodup_toList (s : NameSet) : s.toList.Nodup := s.increasing.imp String.ne_of_lt

theorem insert_comm (s : NameSet) (m n : String) :
    (s.insert m).insert n = (s.insert n).insert m := by
  ext x
  simp only [mem_insert]
  exact or_left_comm

theorem insert_insert_self (s : NameSet) (n : String) : (s.insert n).insert n = s.insert n := by
  ext x
  simp only [mem_insert]
  exact or_self_left

end NameSet

end AccessPolicy
