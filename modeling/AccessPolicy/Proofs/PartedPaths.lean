/-
Paths that part: in what order values are merged in at two of them makes no
difference (`KeyPath.change_comm`), and so the entries of a layer may come in any
order if their paths part pairwise (`Layer.mergeOver_arrange`).

Two paths part if after common steps they come to different keys, or to different
indices that are counted from the same end. Indices from both ends may mean one
element, or two, as the list is long; and where one path ends the other goes on
from what has been merged in there. In these cases the order does matter.
-/
import AccessPolicy.Proofs.DottedPaths
import AccessPolicy.Proofs.Orders
import Mathlib.Data.List.Pairwise

namespace AccessPolicy

namespace NameMap

variable {α : Type}

theorem place_place (k : String) (v v' : α) (l : List (String × α)) :
    place k v (place k v' l) = place k v l := by
  induction l with
  | nil => simp [place]
  | cons e l ih =>
    obtain ⟨x, w⟩ := e
    by_cases hlt : k < x
    · simp [place, hlt]
    · by_cases heq : k = x
      · simp [place, heq]
      · simp [place, hlt, heq, ih]

theorem place_comm_of_lt {k k' : String} (h : k < k') (v v' : α) (l : List (String × α)) :
    place k v (place k' v' l) = place k' v' (place k v l) := by
  have hne : k' ≠ k := fun he => String.lt_irrefl k (he ▸ h)
  have hnlt : ¬ k' < k := String.lt_asymm h
  induction l with
  | nil => simp [place, h, hne, hnlt]
  | cons e l ih =>
    obtain ⟨x, w⟩ := e
    by_cases hlt : k' < x
    · simp [place, hlt, h, String.lt_trans h hlt, hne, hnlt]
    · by_cases heq : k' = x
      · subst heq
        simp [place, h, hne, hnlt]
      · by_cases hlt' : k < x
        · simp [place, hlt, heq, hlt', hne, hnlt]
        · by_cases heq' : k = x
          · subst heq'
            simp [place, hne, hnlt]
          · simp [place, hlt, heq, hlt', heq', ih]

/-- Entries under two keys may be put into their places in any order. -/
theorem place_comm {k k' : String} (hne : k ≠ k') (v v' : α) (l : List (String × α)) :
    place k v (place k' v' l) = place k' v' (place k v l) := by
  by_cases h : k < k'
  · exact place_comm_of_lt h v v' l
  · by_cases h' : k' < k
    · exact (place_comm_of_lt h' v' v l).symm
    · exact absurd (String.le_antisymm (String.not_lt.1 h') (String.not_lt.1 h)) hne

end NameMap

/-! ## Changes at indices -/

theorem reverse_modify {α : Type} {l : List α} {n : Nat} (h : n < l.length) (f : α → α) :
    (l.modify n f).reverse = l.reverse.modify (l.length - 1 - n) f := by
  refine List.ext_getElem (by simp) fun k hk _ => ?_
  have hk' : k < l.length := by simpa using hk
  have hiff : n = l.length - 1 - k ↔ l.length - 1 - n = k := by omega
  rw [List.getElem_reverse, List.getElem_modify, List.getElem_modify, List.getElem_reverse]
  simp only [List.length_modify, hiff]

namespace KeyPath

/-- The elements of a list after a change at an index from the front. -/
theorem getElem?_changeAt_front (f : Tree → Tree) (n k : Nat) (l : List Tree) :
    (changeAt f n l)[k]? = if k = n then some (f (l[k]?.getD .null))
      else if k < n then some (l[k]?.getD .null) else l[k]? := by
  have hfront : ¬ ((n : Int) < 0) := by omega
  simp only [changeAt, if_neg hfront, Int.toNat_natCast, List.getElem?_modify]
  by_cases hk : k < l.length
  · rw [List.getElem?_append_left hk, List.getElem?_eq_getElem hk]
    simp only [Option.map_eq_map, Option.map_some, Option.getD_some, eq_comm (a := n)]
    split_ifs <;> rfl
  · have hmade : k - l.length < n + 1 - l.length ↔ k ≤ n := by omega
    rw [List.getElem?_append_right (Nat.not_lt.1 hk), List.getElem?_replicate,
      List.getElem?_eq_none (Nat.not_lt.1 hk)]
    simp only [hmade, eq_comm (a := n)]
    rcases Nat.lt_trichotomy k n with hlt | rfl | hlt
    · simp [hlt, Nat.le_of_lt hlt, Nat.ne_of_lt hlt]
    · simp
    · simp [Nat.not_le.2 hlt, Nat.ne_of_gt hlt, Nat.not_lt.2 (Nat.le_of_lt hlt)]

/-- An index from the end is one from the front of the list the other way round. -/
theorem changeAt_negSucc (f : Tree → Tree) (n : Nat) (l : List Tree) :
    changeAt f (.negSucc n) l = (changeAt f n l.reverse).reverse := by
  have hfront : ¬ ((n : Int) < 0) := by omega
  have hmissing : (-((l.length : Int) + .negSucc n)).toNat = n + 1 - l.length := by omega
  have hgoal : (((n + 1 - l.length + l.length : Nat) : Int) + .negSucc n).toNat =
      n + 1 - l.length + l.length - 1 - n := by omega
  have hnone : n + 1 - l.length + l.length - 1 - n + 1 - (n + 1 - l.length + l.length) = 0 := by omega
  have hlt : n < (l.reverse ++ List.replicate (n + 1 - l.length) Tree.null).length := by
    rw [List.length_append, List.length_reverse, List.length_replicate]
    omega
  simp only [changeAt, if_neg hfront, if_pos (Int.negSucc_lt_zero n), hmissing, Int.toNat_natCast,
    List.length_append, List.length_replicate, hgoal, hnone, List.length_reverse]
  rw [reverse_modify hlt, List.reverse_append, List.reverse_reverse, List.reverse_replicate,
    List.length_append, List.length_reverse, List.length_replicate, Nat.add_comm l.length]
  simp

/-- Two changes at one index are one change. -/
theorem changeAt_changeAt (f g : Tree → Tree) (i : Int) (l : List Tree) :
    changeAt f i (changeAt g i l) = changeAt (fun t => f (g t)) i l := by
  have hfront : ∀ (n : Nat) (l : List Tree),
      changeAt f n (changeAt g n l) = changeAt (fun t => f (g t)) n l := by
    intro n l
    refine List.ext_getElem? fun k => ?_
    simp only [getElem?_changeAt_front]
    by_cases hk : k = n
    · simp [hk]
    · by_cases hlt : k < n <;> simp [hk, hlt]
  cases i with
  | ofNat n => exact hfront n l
  | negSucc n => simp only [changeAt_negSucc, List.reverse_reverse, hfront]

/-- Changes at two indices that are counted from the same end. -/
theorem changeAt_comm (f g : Tree → Tree) {i j : Int} (hne : i ≠ j) (hend : i < 0 ↔ j < 0)
    (l : List Tree) : changeAt f i (changeAt g j l) = changeAt g j (changeAt f i l) := by
  have hfront : ∀ {n m : Nat}, n ≠ m → ∀ l : List Tree,
      changeAt f n (changeAt g m l) = changeAt g m (changeAt f n l) := by
    intro n m hnm l
    refine List.ext_getElem? fun k => ?_
    simp only [getElem?_changeAt_front]
    grind
  cases i with
  | ofNat n =>
    cases j with
    | ofNat m => exact hfront (fun h => hne (congrArg _ h)) l
    | negSucc m => exact absurd (hend.2 (Int.negSucc_lt_zero m)) (by simp)
  | negSucc n =>
    cases j with
    | ofNat m => exact absurd (hend.1 (Int.negSucc_lt_zero n)) (by simp)
    | negSucc m =>
      simp only [changeAt_negSucc, List.reverse_reverse]
      rw [hfront fun h => hne (congrArg _ h)]

/-! ## Paths that part -/

/-- After common steps the paths come to two different keys, or to two different
indices that are counted from the same end. -/
def Parts : List PathStep → List PathStep → Prop
  | .key a :: p, .key b :: q => a ≠ b ∨ Parts p q
  | .index i :: p, .index j :: q => i ≠ j ∧ (i < 0 ↔ j < 0) ∨ i = j ∧ Parts p q
  | _, _ => False

instance decidableParts : ∀ p q : List PathStep, Decidable (Parts p q)
  | .key a :: p, .key b :: q =>
    @instDecidableOr _ _ (inferInstanceAs (Decidable (a ≠ b))) (decidableParts p q)
  | .index i :: p, .index j :: q =>
    @instDecidableOr _ _ (inferInstanceAs (Decidable (i ≠ j ∧ (i < 0 ↔ j < 0))))
      (@instDecidableAnd _ _ (inferInstanceAs (Decidable (i = j))) (decidableParts p q))
  | [], _ | .key _ :: _, [] | .index _ :: _, [] | .key _ :: _, .index _ :: _
  | .index _ :: _, .key _ :: _ => isFalse id

theorem Parts.symm : ∀ {p q : List PathStep}, Parts p q → Parts q p
  | .key _ :: _, .key _ :: _, h => h.imp Ne.symm Parts.symm
  | .index _ :: _, .index _ :: _, h =>
    h.imp (fun h => ⟨h.1.symm, h.2.symm⟩) fun h => ⟨h.1.symm, h.2.symm⟩

/-- **Changes at paths that part may be made in any order.** -/
theorem change_comm (f g : Tree → Tree) : ∀ {p q : List PathStep}, Parts p q → ∀ t : Tree,
    change f p (change g q t) = change g q (change f p t)
  | .key a :: p, .key b :: q, h, t => by
    simp only [change, Tree.entries_table, NameMap.find_place]
    by_cases hab : a = b
    · subst hab
      have hparts : Parts p q := h.resolve_left fun hne => hne rfl
      simp only [if_true, Option.getD_some, NameMap.place_place, change_comm f g hparts]
    · rw [if_neg hab, if_neg (Ne.symm hab), NameMap.place_comm hab]
  | .index i :: p, .index j :: q, h, t => by
    show Tree.list (changeAt (change f p) i (changeAt (change g q) j t.items)) =
      .list (changeAt (change g q) j (changeAt (change f p) i t.items))
    rcases h with ⟨hne, hend⟩ | ⟨rfl, hparts⟩
    · rw [changeAt_comm _ _ hne hend]
    · rw [changeAt_changeAt, changeAt_changeAt]
      simp only [change_comm f g hparts]

/-- All steps of the path, from the outermost table on. -/
def all (p : KeyPath) : List PathStep := .key p.root :: p.steps

end KeyPath

/-! ## Layers in any order -/

namespace Layer

/-- The paths of the two entries part. -/
def Parted (e e' : String × Tree) : Prop := KeyPath.Parts (pathOf e).all (pathOf e').all

instance (e e' : String × Tree) : Decidable (Parted e e') :=
  inferInstanceAs (Decidable (KeyPath.Parts _ _))

instance : Std.Symm Parted := ⟨fun _ _ h => KeyPath.Parts.symm h⟩

/-- Entries whose paths part pairwise may be merged in in any order. -/
theorem mergeOver_perm {l l' : Layer} (h : l.Pairwise Parted) (hperm : l'.Perm l) (t : Tree) :
    mergeOver t l' = mergeOver t l := by
  refine hperm.symm.foldl_eq' (fun e he e' he' u => ?_) t |>.symm
  by_cases heq : e = e'
  · rw [heq]
  · exact KeyPath.change_comm _ _ (h.forall he' he (Ne.symm heq)) u

/-- **The order does not matter**, if the paths of the entries part pairwise. -/
theorem mergeOver_arrange {l : Layer} (h : l.Pairwise Parted) (order : List String) (t : Tree) :
    mergeOver t (arrange (·.1) order l) = mergeOver t l :=
  mergeOver_perm h (perm_arrange _ order l) t

/-- Plain names part if they are different. -/
theorem parted_of_plain {l : Layer} (hplain : ∀ e ∈ l, KeyPath.isPlain e.1 = true)
    (hkeys : (l.map (·.1)).Nodup) : l.Pairwise Parted := by
  have hpath : ∀ e ∈ l, pathOf e = ⟨e.1, []⟩ := by
    intro e he
    have hsplit := KeyPath.splitAt_of_plain (hplain e he)
    obtain ⟨root, names, hnames, hparse⟩ := KeyPath.parse?_of_plain (s := e.1) (by
      rw [hsplit, List.forall_mem_singleton]
      exact hplain e he)
    rw [hsplit] at hnames
    cases hnames
    rw [pathOf, KeyPath.ofText, hparse]
    rfl
  refine (List.pairwise_map.1 hkeys).imp_of_mem fun he he' hne => ?_
  rw [Parted, hpath _ he, hpath _ he']
  exact .inl hne

end Layer

end AccessPolicy
