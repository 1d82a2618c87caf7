/-
Where a value is after others have been merged over the tree that it stands in.

A spot is a path to what is there: by keys, and by indices from the front. A
layer that is merged over the tree takes the place of what is at a spot, or it
leaves the value there; an index before the front of a list pushes the elements
that the list has, so that the value may end up further on
(`KeyPath.spotAfter?`). For a value whose place is taken it makes no difference
what it was; one that is left stays what it is, but for the entries of a table
and the elements of a list (`Layer.moves_mergeOver`).
-/
import AccessPolicy.Proofs.Branches
import AccessPolicy.Proofs.Merging

namespace AccessPolicy

namespace NameMap

variable {α : Type}

theorem eq_of_find {l m : List (String × α)} (hl : l.Pairwise (·.1 < ·.1))
    (hm : m.Pairwise (·.1 < ·.1)) (h : ∀ k, find k l = find k m) : l = m :=
  congrArg toList (NameMap.ext (m := ⟨l, hl⟩) (n := ⟨m, hm⟩) h)

/-- An entry that is there may be put into its place again. -/
theorem place_of_find {l : List (String × α)} (hl : l.Pairwise (·.1 < ·.1)) {k : String} {v : α}
    (h : find k l = some v) : place k v l = l := by
  refine eq_of_find (pairwise_place hl) hl fun x => ?_
  rw [find_place]
  by_cases hx : x = k
  · rw [if_pos hx, hx, h]
  · rw [if_neg hx]

end NameMap

/-! ## Lists with elements made around them -/

theorem modify_append_of_lt {α : Type} {l : List α} {n : Nat} (h : n < l.length) (f : α → α)
    (after : List α) : (l ++ after).modify n f = l.modify n f ++ after := by
  induction l generalizing n with
  | nil => simp at h
  | cons x l ih =>
    cases n with
    | zero => rfl
    | succ n =>
      rw [List.cons_append, List.modify_succ_cons, List.modify_succ_cons, List.cons_append,
        ih (by simpa using h)]

theorem append_modify {α : Type} (before l : List α) (n : Nat) (f : α → α) :
    (before ++ l).modify (n + before.length) f = before ++ l.modify n f := by
  induction before with
  | nil => rfl
  | cons x before ih =>
    rw [List.cons_append, List.length_cons, ← Nat.add_assoc, List.modify_succ_cons, ih,
      List.cons_append]

theorem modify_congr {α : Type} {l : List α} {n : Nat} {f g : α → α}
    (h : ∀ x, l[n]? = some x → f x = g x) : l.modify n f = l.modify n g := by
  induction l generalizing n with
  | nil => simp
  | cons x l ih =>
    cases n with
    | zero =>
      rw [List.modify_zero_cons, List.modify_zero_cons, h x rfl]
    | succ n =>
      rw [List.modify_succ_cons, List.modify_succ_cons, ih fun y hy => h y hy]

namespace KeyPath

/-- The number of elements that are made before a list for an index. -/
def made (i : Int) (length : Nat) : Nat := if i < 0 then (-(length + i)).toNat else 0

/-- Where the element for an index is, counted from the front of the new list. -/
def goal (i : Int) (length : Nat) : Nat := if i < 0 then (length + i).toNat else i.toNat

/-- The list with the elements that are made for an index. -/
def stretch (i : Int) (l : List Tree) : List Tree :=
  List.replicate (made i l.length) .null
    ++ (l ++ List.replicate (goal i l.length + 1 - (made i l.length + l.length)) .null)

theorem changeAt_eq (f : Tree → Tree) (i : Int) (l : List Tree) :
    changeAt f i l = (stretch i l).modify (goal i l.length) f := by
  unfold changeAt stretch made goal
  by_cases hi : i < 0
  · have hgoal : ((((-(l.length + i)).toNat + l.length : Nat) : Int) + i).toNat =
        (l.length + i).toNat := by
      omega
    simp only [hi, if_true, List.length_append, List.length_replicate, hgoal, List.append_assoc]
  · simp [hi]

theorem getElem?_stretch {i : Int} {l : List Tree} {n : Nat} (h : n < l.length) :
    (stretch i l)[n + made i l.length]? = l[n]? := by
  rw [stretch, List.getElem?_append_right (by simp), List.length_replicate, Nat.add_sub_cancel,
    List.getElem?_append_left h]

theorem stretch_modify {i : Int} {l : List Tree} {n : Nat} (h : n < l.length) (f : Tree → Tree) :
    stretch i (l.modify n f) = (stretch i l).modify (n + made i l.length) f := by
  rw [stretch, stretch, List.length_modify]
  generalize made i l.length = m
  generalize List.replicate (goal i l.length + 1 - (m + l.length)) Tree.null = after
  have happend := append_modify (List.replicate m Tree.null) (l ++ after) n f
  rw [List.length_replicate] at happend
  rw [happend, modify_append_of_lt h]

/-- An index from the front that a list has is that of an element of it. -/
theorem changeAt_of_lt {l : List Tree} {n : Nat} (h : n < l.length) (f : Tree → Tree) :
    changeAt f n l = l.modify n f := by
  have hfront : ¬ ((n : Int) < 0) := by omega
  have hnil : n + 1 - l.length = 0 := by omega
  simp [changeAt_eq, stretch, made, goal, if_neg hfront, hnil]

/-- An element of a list after a change at an index. -/
theorem getElem?_changeAt {f : Tree → Tree} {i : Int} {l : List Tree} {n : Nat} {x : Tree}
    (h : l[n]? = some x) :
    (changeAt f i l)[n + made i l.length]? =
      some (if n + made i l.length = goal i l.length then f x else x) := by
  have hn : n < l.length := (List.getElem?_eq_some_iff.1 h).1
  rw [changeAt_eq, List.getElem?_modify, getElem?_stretch hn, h]
  by_cases hgoal : n + made i l.length = goal i l.length
  · simp [hgoal]
  · simp [hgoal, Ne.symm hgoal]

/-- A change of the element that is changed at the index. -/
theorem changeAt_modify_of_eq {f g g' : Tree → Tree} {i : Int} {l : List Tree} {n : Nat} {x : Tree}
    (h : l[n]? = some x) (hgoal : n + made i l.length = goal i l.length) (hf : f (g x) = g' (f x)) :
    changeAt f i (l.modify n g) = (changeAt f i l).modify (n + made i l.length) g' := by
  have hn : n < l.length := (List.getElem?_eq_some_iff.1 h).1
  rw [changeAt_eq, changeAt_eq, List.length_modify, stretch_modify hn, hgoal, List.modify_modify_eq,
    List.modify_modify_eq]
  refine modify_congr fun y hy => ?_
  rw [← hgoal, getElem?_stretch hn, h] at hy
  rw [← Option.some.inj hy]
  exact hf

/-- A change of an element that is not changed at the index. -/
theorem changeAt_modify_of_ne {f g : Tree → Tree} {i : Int} {l : List Tree} {n : Nat}
    (hn : n < l.length) (hgoal : n + made i l.length ≠ goal i l.length) :
    changeAt f i (l.modify n g) = (changeAt f i l).modify (n + made i l.length) g := by
  rw [changeAt_eq, changeAt_eq, List.length_modify, stretch_modify hn, List.modify_modify_ne _ _ _ hgoal]

end KeyPath

/-! ## Values and their spots -/

namespace Tree

/-- Whether the value is a table. -/
def isTable : Tree → Bool
  | .table _ => true
  | _ => false

/-- Whether the value is a list. -/
def isList : Tree → Bool
  | .list _ => true
  | _ => false

/-- The second value is of the sort of the first: a table, a list, or otherwise
the same value. -/
def Like : Tree → Tree → Prop
  | .table _, v => v.isTable = true
  | .list _, v => v.isList = true
  | v, w => w = v

/-- What is at a spot of a tree. -/
def part? : List PathStep → Tree → Option Tree
  | [], t => some t
  | .key name :: spot, t => (NameMap.find name t.entries).bind (part? spot)
  | .index (.ofNat n) :: spot, t => (t.items[n]?).bind (part? spot)
  | .index (.negSucc _) :: _, _ => none

/-- The tree with another value at a spot. -/
def plant (t : Tree) (spot : List PathStep) (w : Tree) : Tree :=
  KeyPath.change (fun _ => w) spot t

/-- The value has no parts, unless they are of the sort that the other one may have. -/
structure Bare (v w : Tree) : Prop where
  entries : v.isTable = false → w.entries = []
  items : v.isList = false → w.items = []

theorem Bare.of_isTable {v w : Tree} (h : v.isTable = true) (hitems : w.items = []) : Bare v w := by
  refine ⟨fun hv => ?_, fun _ => hitems⟩
  rw [h] at hv
  cases hv

theorem Bare.of_isList {v w : Tree} (h : v.isList = true) (hentries : w.entries = []) :
    Bare v w := by
  refine ⟨fun _ => hentries, fun hv => ?_⟩
  rw [h] at hv
  cases hv

theorem Like.refl (v : Tree) : Like v v := by
  cases v <;> simp [Like, isTable, isList]

theorem Like.isTable {v w : Tree} (h : Like v w) : w.isTable = v.isTable := by
  cases v with
  | table es => exact h
  | list ts => cases w <;> simp_all [Like, Tree.isList, Tree.isTable]
  | _ => rw [show w = _ from h]

theorem Like.isList {v w : Tree} (h : Like v w) : w.isList = v.isList := by
  cases v with
  | list ts => exact h
  | table es => cases w <;> simp_all [Like, Tree.isList, Tree.isTable]
  | _ => rw [show w = _ from h]

theorem entries_of_isTable {t : Tree} (h : t.isTable = false) : t.entries = [] := by
  cases t <;> first | rfl | cases h

theorem items_of_isList {t : Tree} (h : t.isList = false) : t.items = [] := by
  cases t <;> first | rfl | cases h

theorem items_of_isTable {t : Tree} (h : t.isTable = true) : t.items = [] := by
  cases t <;> first | rfl | cases h

theorem part?_key {name : String} {spot : List PathStep} {t v : Tree}
    (h : t.part? (.key name :: spot) = some v) :
    ∃ x, NameMap.find name t.entries = some x ∧ x.part? spot = some v :=
  Option.bind_eq_some_iff.1 h

theorem part?_index {i : Int} {spot : List PathStep} {t v : Tree}
    (h : t.part? (.index i :: spot) = some v) :
    ∃ (n : Nat) (x : Tree), i = n ∧ t.items[n]? = some x ∧ x.part? spot = some v := by
  cases i with
  | ofNat n =>
    obtain ⟨x, hx, hv⟩ := Option.bind_eq_some_iff.1 h
    exact ⟨n, x, rfl, hx, hv⟩
  | negSucc n => cases h

/-! ## Merging -/

/-- Whether a tree that is merged over another takes the place of the value at a spot. -/
def displaces (v : Tree) : List PathStep → Tree → Bool
  | [], .table _ => !v.isTable
  | .key name :: spot, .table es =>
    match NameMap.find name es with
    | none => false
    | some u => displaces v spot u
  | _, _ => true

/-- What becomes of the value at a spot when the tree is changed. Its place is
taken, and it makes no difference what it was; or it is at another spot from
then on, and the change makes the same of the tree around it whatever it is. -/
def Moves (change : Tree → Tree) (v : Tree) (spot : List PathStep) (t : Tree) :
    Option (List PathStep) → Prop
  | none => ∀ w, Bare v w → change (t.plant spot w) = change t
  | some spot' => (∃ v', (change t).part? spot' = some v' ∧ Like v v') ∧
      ∀ w, Bare v w → ∃ w', Bare v w' ∧ change (t.plant spot w) = (change t).plant spot' w'

theorem Moves.taken {change : Tree → Tree} {v t : Tree} {spot : List PathStep}
    (h : ∀ w, Bare v w → change (t.plant spot w) = change t) : Moves change v spot t none := h

theorem Moves.left {change : Tree → Tree} {v v' t : Tree} {spot spot' : List PathStep}
    (hpart : (change t).part? spot' = some v') (hlike : Like v v')
    (h : ∀ w, Bare v w → ∃ w', Bare v w' ∧ change (t.plant spot w) = (change t).plant spot' w') :
    Moves change v spot t (some spot') := ⟨⟨v', hpart, hlike⟩, h⟩

/-- Two changes, one after the other. -/
theorem Moves.trans {change next : Tree → Tree} {v t : Tree} {spot spot' : List PathStep}
    {after : Option (List PathStep)} (h : Moves change v spot t (some spot'))
    (h' : Moves next v spot' (change t) after) : Moves (fun t => next (change t)) v spot t after := by
  obtain ⟨-, hmoves⟩ := h
  cases after with
  | none =>
    refine Moves.taken fun w hw => ?_
    obtain ⟨w', hw', heq⟩ := hmoves w hw
    rw [heq]
    exact h' w' hw'
  | some spot₂ =>
    obtain ⟨⟨v', hv', hlike⟩, hmoves'⟩ := h'
    refine Moves.left hv' hlike fun w hw => ?_
    obtain ⟨w', hw', heq⟩ := hmoves w hw
    rw [heq]
    exact hmoves' w' hw'

theorem pairwise_mergeEntries {old : List (String × Tree)} (h : old.Pairwise (·.1 < ·.1))
    (es : List (String × Tree)) : (mergeEntries old es).Pairwise (·.1 < ·.1) := by
  induction es generalizing old with
  | nil => simpa [mergeEntries] using h
  | cons e es ih =>
    obtain ⟨k, t⟩ := e
    rw [mergeEntries]
    exact ih (NameMap.pairwise_place h)

/-- What is merged over a table with another value under a key. -/
theorem mergeEntries_place_old {old es : List (String × Tree)} (hold : old.Pairwise (·.1 < ·.1))
    (hes : es.Pairwise (·.1 < ·.1)) (k : String) (y : Tree) :
    mergeEntries (NameMap.place k y old) es =
      NameMap.place k (((NameMap.find k es).map y.merge).getD y) (mergeEntries old es) := by
  refine NameMap.eq_of_find (pairwise_mergeEntries (NameMap.pairwise_place hold) es)
    (NameMap.pairwise_place (pairwise_mergeEntries hold es)) fun x => ?_
  rw [find_mergeEntries hes, NameMap.find_place, NameMap.find_place, find_mergeEntries hes]
  by_cases hx : x = k
  · rw [if_pos hx, if_pos hx, hx]
    cases NameMap.find k es <;> rfl
  · rw [if_neg hx, if_neg hx]

theorem plant_key {name : String} {spot : List PathStep} {t x : Tree}
    (h : NameMap.find name t.entries = some x) (w : Tree) :
    t.plant (.key name :: spot) w = .table (NameMap.place name (x.plant spot w) t.entries) := by
  simp only [plant, KeyPath.change, h, Option.getD_some]

theorem plant_index {n : Nat} {spot : List PathStep} {t x : Tree} (h : t.items[n]? = some x)
    (w : Tree) :
    t.plant (.index n :: spot) w = .list (t.items.modify n fun y => y.plant spot w) := by
  simp only [plant, KeyPath.change, KeyPath.changeAt_of_lt (List.getElem?_eq_some_iff.1 h).1]

theorem exists_entries {t : Tree} (h : t.isTable = true) : ∃ es, t = .table es := by
  cases t <;> first | exact ⟨_, rfl⟩ | cases h

theorem exists_items {t : Tree} (h : t.isList = true) : ∃ ts, t = .list ts := by
  cases t <;> first | exact ⟨_, rfl⟩ | cases h

theorem displaces_of_scalar {v u : Tree} (h : u.isTable = false) (spot : List PathStep) :
    displaces v spot u = true := by
  cases u with
  | table es => cases h
  | _ =>
    match spot with
    | [] => rfl
    | .key _ :: _ => rfl
    | .index _ :: _ => rfl

theorem merge_of_scalar {u : Tree} (h : u.isTable = false) (t : Tree) : t.merge u = u := by
  refine merge_scalar ?_
  intro es he
  rw [he] at h
  cases h

section

variable {v v' u t x : Tree} {es : List (String × Tree)} {spot : List PathStep}

/-- What is no table takes the place of everything. -/
theorem moves_merge_scalar (hu : u.isTable = false) : Moves (·.merge u) v spot t none := by
  refine Moves.taken fun w _ => ?_
  rw [merge_of_scalar hu, merge_of_scalar hu]

/-- A table merged over the value itself. -/
theorem moves_merge_root (hlike : Like v t) :
    Moves (·.merge (.table es)) v [] t (if displaces v [] (.table es) then none else some []) := by
  rw [displaces]
  cases hv : v.isTable with
  | false =>
    refine Moves.taken fun w hw => ?_
    rw [plant, KeyPath.change, merge_table, merge_table, hw.entries hv,
      entries_of_isTable (hlike.isTable.trans hv)]
  | true =>
    obtain ⟨vs, rfl⟩ := exists_entries hv
    have hmerge : ∀ t : Tree, (t.merge (.table es)).isTable = true := by
      intro t
      rw [merge_table]
      rfl
    exact Moves.left rfl (hmerge t) fun w _ =>
      ⟨w.merge (.table es), .of_isTable rfl (items_of_isTable (hmerge w)), rfl⟩

/-- A table merged over a list. -/
theorem moves_merge_of_index {i : Int} (hv' : t.part? (.index i :: spot) = some v') :
    Moves (·.merge (.table es)) v (.index i :: spot) t none := by
  obtain ⟨n, x, rfl, hx, -⟩ := part?_index hv'
  refine Moves.taken fun w _ => ?_
  have hlist : t.entries = [] := by
    cases t <;> first | rfl | cases hx
  rw [plant_index hx, merge_table, merge_table, hlist]
  rfl

/-- What is merged over a table with another value somewhere in an entry. -/
theorem plant_key_merge {name : String} (hx : NameMap.find name t.entries = some x)
    (ht : t.Ordered) (hes : (Tree.table es).Ordered) (w : Tree) :
    (t.plant (.key name :: spot) w).merge (.table es) =
      .table (NameMap.place name (((NameMap.find name es).map (x.plant spot w).merge).getD
        (x.plant spot w)) (mergeEntries t.entries es)) := by
  rw [plant_key hx, merge_table, entries_table,
    mergeEntries_place_old ht.tableEntries.increasing hes.increasing]

/-- A table without the entry that the value is in. -/
theorem moves_merge_other {name : String} (ht : t.Ordered) (hes : (Tree.table es).Ordered)
    (hu : NameMap.find name es = none) (hlike : Like v v')
    (hv' : t.part? (.key name :: spot) = some v') :
    Moves (·.merge (.table es)) v (.key name :: spot) t (some (.key name :: spot)) := by
  obtain ⟨x, hx, hv'⟩ := part?_key hv'
  have hfind : NameMap.find name (mergeEntries t.entries es) = some x := by
    rw [find_mergeEntries hes.increasing, hu, hx]
  refine Moves.left ?_ hlike fun w hw => ⟨w, hw, ?_⟩
  · rw [merge_table, part?, entries_table, hfind]
    exact hv'
  · rw [plant_key_merge hx ht hes, hu, merge_table, plant_key hfind]
    rfl

/-- A table with the entry that the value is in. -/
theorem moves_merge_entry {name : String} {after : Option (List PathStep)} (ht : t.Ordered)
    (hes : (Tree.table es).Ordered) (hu : NameMap.find name es = some u)
    (hx : NameMap.find name t.entries = some x) (h : Moves (·.merge u) v spot x after) :
    Moves (·.merge (.table es)) v (.key name :: spot) t (after.map (.key name :: ·)) := by
  have hfind : NameMap.find name (mergeEntries t.entries es) = some (x.merge u) := by
    rw [find_mergeEntries hes.increasing, hu, hx]
    rfl
  cases after with
  | none =>
    refine Moves.taken fun w hw => ?_
    have heq : (x.plant spot w).merge u = x.merge u := h w hw
    rw [plant_key_merge hx ht hes, hu, Option.map_some, Option.getD_some, heq, merge_table,
      NameMap.place_of_find (pairwise_mergeEntries ht.tableEntries.increasing es) hfind]
  | some spot' =>
    obtain ⟨⟨v₁, hv₁, hlike₁⟩, hmoves⟩ := h
    refine Moves.left ?_ hlike₁ fun w hw => ?_
    · rw [merge_table, part?, entries_table, hfind]
      exact hv₁
    · obtain ⟨w', hw', heq⟩ := hmoves w hw
      refine ⟨w', hw', ?_⟩
      have heq : (x.plant spot w).merge u = (x.merge u).plant spot' w' := heq
      rw [plant_key_merge hx ht hes, hu, Option.map_some, Option.getD_some, heq, merge_table,
        plant_key hfind]
      rfl

end

theorem moves_merge {v : Tree} {spot : List PathStep} {u t v' : Tree} (hu : u.Ordered)
    (ht : t.Ordered) (hv' : t.part? spot = some v') (hlike : Like v v') :
    Moves (·.merge u) v spot t (if displaces v spot u then none else some spot) := by
  induction spot generalizing u t with
  | nil =>
    cases hv'
    cases htable : u.isTable with
    | false =>
      rw [if_pos (displaces_of_scalar htable [])]
      exact moves_merge_scalar htable
    | true =>
      obtain ⟨es, rfl⟩ := exists_entries htable
      exact moves_merge_root hlike
  | cons step spot ih =>
    cases htable : u.isTable with
    | false =>
      rw [if_pos (displaces_of_scalar htable _)]
      exact moves_merge_scalar htable
    | true =>
      obtain ⟨es, rfl⟩ := exists_entries htable
      cases step with
      | index i => exact moves_merge_of_index hv'
      | key name =>
        rw [displaces]
        cases hes : NameMap.find name es with
        | none => exact moves_merge_other ht hu hes hlike hv'
        | some u =>
          obtain ⟨x, hx, hv'⟩ := part?_key hv'
          have hmoves := moves_merge_entry ht hu hes hx (ih (hu.find hes) (ht.tableEntries.find hx) hv')
          rw [apply_ite (Option.map (PathStep.key name :: ·))] at hmoves
          exact hmoves

end Tree

/-! ## Paths -/

namespace KeyPath

/-- Where the value at a spot of a tree is after another has been merged in at
the end of some steps, unless its place is taken. -/
def spotAfter? (u v : Tree) : List PathStep → List PathStep → Tree → Option (List PathStep)
  | [], spot, _ => if v.displaces spot u then none else some spot
  | .key _ :: _, [], _ => if v.isTable then some [] else none
  | .key name :: steps, .key k :: spot, t =>
    if k = name then
      (spotAfter? u v steps spot ((NameMap.find k t.entries).getD .null)).map (.key k :: ·)
    else some (.key k :: spot)
  | .key _ :: _, .index _ :: _, _ => none
  | .index _ :: _, [], _ => if v.isList then some [] else none
  | .index _ :: _, .key _ :: _, _ => none
  | .index i :: steps, .index j :: spot, t =>
    let n := j.toNat + made i t.items.length
    if n = goal i t.items.length then
      (spotAfter? u v steps spot (t.items.getD j.toNat .null)).map (.index n :: ·)
    else some (.index n :: spot)

section

variable {change' : Tree → Tree} {v v' t x : Tree} {spot : List PathStep}
  {after : Option (List PathStep)}

/-- A change of the entry that the value is in. -/
theorem moves_key {k : String} (hx : NameMap.find k t.entries = some x)
    (h : Tree.Moves change' v spot x after) :
    Tree.Moves
      (fun t => .table (NameMap.place k (change' ((NameMap.find k t.entries).getD .null)) t.entries))
      v (.key k :: spot) t (after.map (.key k :: ·)) := by
  have hfind : ∀ y, NameMap.find k (NameMap.place k y t.entries) = some y := by
    intro y
    rw [NameMap.find_place, if_pos rfl]
  cases after with
  | none =>
    refine Tree.Moves.taken fun w hw => ?_
    rw [Tree.plant_key hx, Tree.entries_table, hfind, Option.getD_some, NameMap.place_place, h w hw,
      hx, Option.getD_some]
  | some spot' =>
    obtain ⟨⟨v₁, hv₁, hlike⟩, hmoves⟩ := h
    refine Tree.Moves.left ?_ hlike fun w hw => ?_
    · rw [Tree.part?, Tree.entries_table, hfind, hx, Option.getD_some]
      exact hv₁
    · obtain ⟨w', hw', heq⟩ := hmoves w hw
      refine ⟨w', hw', ?_⟩
      rw [Tree.plant_key hx, Tree.entries_table, hfind, Option.getD_some, NameMap.place_place, heq,
        Tree.plant_key (hfind _), Tree.entries_table, NameMap.place_place, hx, Option.getD_some]

/-- A change of another entry than that which the value is in. -/
theorem moves_other_key {k name : String} (hk : k ≠ name) (hlike : Tree.Like v v')
    (hv' : t.part? (.key k :: spot) = some v') :
    Tree.Moves
      (fun t => .table (NameMap.place name (change' ((NameMap.find name t.entries).getD .null)) t.entries))
      v (.key k :: spot) t (some (.key k :: spot)) := by
  obtain ⟨x, hx, hpart⟩ := Tree.part?_key hv'
  have hfind : ∀ y, NameMap.find k (NameMap.place name y t.entries) = some x := by
    intro y
    rw [NameMap.find_place, if_neg hk, hx]
  refine Tree.Moves.left ?_ hlike fun w hw => ⟨w, hw, ?_⟩
  · rw [Tree.part?, Tree.entries_table, hfind]
    exact hpart
  · rw [Tree.plant_key hx, Tree.entries_table, NameMap.find_place, if_neg (Ne.symm hk),
      Tree.plant_key (hfind _), Tree.entries_table, NameMap.place_comm hk]

theorem part?_changed {ts : List Tree} {n : Nat} (h : ts[n]? = some x) :
    (Tree.list ts).part? (.index n :: spot) = x.part? spot := by
  show ((ts[n]?).bind _) = _
  rw [h]
  rfl

/-- A change of the element that the value is in. -/
theorem moves_index {i : Int} {n : Nat} (hx : t.items[n]? = some x)
    (hgoal : n + made i t.items.length = goal i t.items.length)
    (h : Tree.Moves change' v spot x after) :
    Tree.Moves (fun t => .list (changeAt change' i t.items)) v (.index n :: spot) t
      (after.map (.index (n + made i t.items.length : Nat) :: ·)) := by
  have hat : (changeAt change' i t.items)[n + made i t.items.length]? = some (change' x) := by
    rw [getElem?_changeAt hx, if_pos hgoal]
  cases after with
  | none =>
    refine Tree.Moves.taken fun w hw => ?_
    have heq : changeAt change' i (t.items.modify n fun y => y.plant spot w) =
        (changeAt change' i t.items).modify (n + made i t.items.length) id :=
      changeAt_modify_of_eq hx hgoal (h w hw)
    rw [List.modify_id] at heq
    rw [Tree.plant_index hx]
    exact congrArg Tree.list heq
  | some spot' =>
    obtain ⟨⟨v₁, hv₁, hlike⟩, hmoves⟩ := h
    refine Tree.Moves.left ?_ hlike fun w hw => ?_
    · rw [part?_changed hat]
      exact hv₁
    · obtain ⟨w', hw', heq⟩ := hmoves w hw
      have heq : changeAt change' i (t.items.modify n fun y => y.plant spot w) =
          (changeAt change' i t.items).modify (n + made i t.items.length) fun y => y.plant spot' w' :=
        changeAt_modify_of_eq hx hgoal heq
      refine ⟨w', hw', ?_⟩
      rw [Tree.plant_index hx, Tree.plant_index hat]
      exact congrArg Tree.list heq

/-- A change of another element than that which the value is in. -/
theorem moves_other_index {i : Int} {n : Nat} (hgoal : n + made i t.items.length ≠ goal i t.items.length)
    (hlike : Tree.Like v v') (hx : t.items[n]? = some x) (hv' : x.part? spot = some v') :
    Tree.Moves (fun t => .list (changeAt change' i t.items)) v (.index n :: spot) t
      (some (.index (n + made i t.items.length : Nat) :: spot)) := by
  have hat : (changeAt change' i t.items)[n + made i t.items.length]? = some x := by
    rw [getElem?_changeAt hx, if_neg hgoal]
  refine Tree.Moves.left ?_ hlike fun w hw => ⟨w, hw, ?_⟩
  · rw [part?_changed hat]
    exact hv'
  · have hn : n < t.items.length := (List.getElem?_eq_some_iff.1 hx).1
    rw [Tree.plant_index hx, Tree.plant_index hat]
    exact congrArg Tree.list (changeAt_modify_of_ne hn hgoal)

/-- A change of an entry of the value itself. -/
theorem moves_key_root (name : String) (hlike : Tree.Like v t) :
    Tree.Moves
      (fun t => .table (NameMap.place name (change' ((NameMap.find name t.entries).getD .null)) t.entries))
      v [] t (if v.isTable then some [] else none) := by
  cases hv : v.isTable with
  | false =>
    refine Tree.Moves.taken fun w hw => ?_
    have hnil := Tree.entries_of_isTable (hlike.isTable.trans hv)
    rw [Tree.plant, change, hw.entries hv, hnil]
  | true =>
    obtain ⟨vs, rfl⟩ := Tree.exists_entries hv
    exact Tree.Moves.left rfl rfl fun w _ => ⟨_, .of_isTable rfl rfl, rfl⟩

/-- A change of an entry where there is a list. -/
theorem moves_key_of_index {i : Int} (name : String) (hv' : t.part? (.index i :: spot) = some v') :
    Tree.Moves
      (fun t => .table (NameMap.place name (change' ((NameMap.find name t.entries).getD .null)) t.entries))
      v (.index i :: spot) t none := by
  obtain ⟨n, x, rfl, hx, -⟩ := Tree.part?_index hv'
  have hlist : t.entries = [] := by
    cases t <;> first | rfl | cases hx
  refine Tree.Moves.taken fun w _ => ?_
  rw [Tree.plant_index hx, hlist]
  rfl

/-- A change of an element of the value itself. -/
theorem moves_index_root (i : Int) (hlike : Tree.Like v t) :
    Tree.Moves (fun t => .list (changeAt change' i t.items)) v [] t
      (if v.isList then some [] else none) := by
  cases hv : v.isList with
  | false =>
    refine Tree.Moves.taken fun w hw => ?_
    have hnil := Tree.items_of_isList (hlike.isList.trans hv)
    rw [Tree.plant, change, hw.items hv, hnil]
  | true =>
    obtain ⟨vs, rfl⟩ := Tree.exists_items hv
    exact Tree.Moves.left rfl rfl fun w _ => ⟨_, .of_isList rfl rfl, rfl⟩

/-- A change of an element where there is a table. -/
theorem moves_index_of_key {k : String} (i : Int) (hv' : t.part? (.key k :: spot) = some v') :
    Tree.Moves (fun t => .list (changeAt change' i t.items)) v (.key k :: spot) t none := by
  obtain ⟨x, hx, -⟩ := Tree.part?_key hv'
  have htable : t.items = [] := by
    cases t <;> first | rfl | cases hx
  refine Tree.Moves.taken fun w _ => ?_
  rw [Tree.plant_key hx, htable]
  rfl

end

/-- What becomes of the value when another is merged in at the end of some steps. -/
theorem moves_change {u v v' : Tree} (hu : u.Ordered) (hlike : Tree.Like v v')
    {steps spot : List PathStep} {t : Tree} (ht : t.Ordered) (hv' : t.part? spot = some v') :
    Tree.Moves (change (·.merge u) steps) v spot t (spotAfter? u v steps spot t) := by
  induction steps generalizing spot t with
  | nil => exact Tree.moves_merge hu ht hv' hlike
  | cons step steps ih =>
    cases step with
    | key name =>
      match spot with
      | [] =>
        cases hv'
        exact moves_key_root name hlike
      | .index i :: spot => exact moves_key_of_index name hv'
      | .key k :: spot =>
        rw [spotAfter?]
        by_cases hk : k = name
        · obtain ⟨x, hx, hpart⟩ := Tree.part?_key hv'
          rw [if_pos hk, ← hk, hx, Option.getD_some]
          exact moves_key hx (ih (ht.tableEntries.find hx) hpart)
        · rw [if_neg hk]
          exact moves_other_key hk hlike hv'
    | index i =>
      match spot with
      | [] =>
        cases hv'
        exact moves_index_root i hlike
      | .index j :: spot =>
        obtain ⟨n, x, rfl, hx, hpart⟩ := Tree.part?_index hv'
        have hget : t.items.getD n .null = x := by
          rw [List.getD_eq_getElem?_getD, hx, Option.getD_some]
        rw [spotAfter?, Int.toNat_natCast, hget]
        by_cases hgoal : n + made i t.items.length = goal i t.items.length
        · rw [if_pos hgoal]
          exact moves_index hx hgoal (ih (ht.mem_items x (List.mem_of_getElem? hx)) hpart)
        · rw [if_neg hgoal]
          exact moves_other_index hgoal hlike hx hpart
      | .key k :: spot => exact moves_index_of_key i hv'

theorem moves_set (p : KeyPath) {u v v' : Tree} (hu : u.Ordered) (hlike : Tree.Like v v')
    {spot : List PathStep} {t : Tree} (ht : t.Ordered) (hv' : t.part? spot = some v') :
    Tree.Moves (p.set u) v spot t (spotAfter? u v (.key p.root :: p.steps) spot t) :=
  moves_change hu hlike ht hv'

/-- If no index of the path is one from the end, the value stays at its spot. -/
theorem spotAfter?_of_front {u v v' : Tree} {steps spot spot' : List PathStep} {t : Tree}
    (hsteps : ∀ i, .index i ∈ steps → 0 ≤ i) (hv' : t.part? spot = some v')
    (h : spotAfter? u v steps spot t = some spot') : spot' = spot := by
  induction steps generalizing spot spot' t with
  | nil =>
    rw [spotAfter?] at h
    split at h
    · cases h
    · exact (Option.some.inj h).symm
  | cons step steps ih =>
    have hrest : ∀ i, .index i ∈ steps → 0 ≤ i := fun i hi => hsteps i (List.mem_cons_of_mem _ hi)
    match step, spot with
    | .key name, [] =>
      rw [spotAfter?] at h
      split at h
      · exact (Option.some.inj h).symm
      · cases h
    | .key name, .index _ :: _ => cases h
    | .key name, .key k :: spot =>
      obtain ⟨x, hx, hpart⟩ := Tree.part?_key hv'
      rw [spotAfter?, hx, Option.getD_some] at h
      split at h
      · obtain ⟨spot₁, h₁, rfl⟩ := Option.map_eq_some_iff.1 h
        rw [ih hrest hpart h₁]
      · exact (Option.some.inj h).symm
    | .index i, [] =>
      rw [spotAfter?] at h
      split at h
      · exact (Option.some.inj h).symm
      · cases h
    | .index i, .key _ :: _ => cases h
    | .index i, .index j :: spot =>
      obtain ⟨n, x, rfl, hx, hpart⟩ := Tree.part?_index hv'
      have hget : t.items.getD n .null = x := by
        rw [List.getD_eq_getElem?_getD, hx, Option.getD_some]
      have hfront : made i t.items.length = 0 := if_neg (Int.not_lt.2 (hsteps i List.mem_cons_self))
      rw [spotAfter?, Int.toNat_natCast, hget, hfront, Nat.add_zero] at h
      split at h
      · obtain ⟨spot₁, h₁, rfl⟩ := Option.map_eq_some_iff.1 h
        rw [ih hrest hpart h₁]
      · exact (Option.some.inj h).symm

end KeyPath

/-! ## Layers -/

namespace Layer

/-- Where the value at a spot of a tree is after a layer has been merged over
the tree, unless its place is taken. -/
def spotAfter? (v : Tree) : Layer → List PathStep → Tree → Option (List PathStep)
  | [], spot, _ => some spot
  | e :: layer, spot, t =>
    let p := KeyPath.ofText e.1
    match KeyPath.spotAfter? e.2 v (.key p.root :: p.steps) spot t with
    | none => none
    | some spot' => spotAfter? v layer spot' (p.set e.2 t)

/-- **What a layer does to a value.** -/
theorem moves_mergeOver {v v' : Tree} {layer : Layer} (hlayer : ∀ e ∈ layer, e.2.Ordered)
    {spot : List PathStep} {t : Tree} (ht : t.Ordered) (hv' : t.part? spot = some v')
    (hlike : Tree.Like v v') :
    Tree.Moves (mergeOver · layer) v spot t (spotAfter? v layer spot t) := by
  induction layer generalizing spot t v' with
  | nil => exact Tree.Moves.left hv' hlike fun w hw => ⟨w, hw, rfl⟩
  | cons e layer ih =>
    obtain ⟨he, hlayer⟩ := List.forall_mem_cons.1 hlayer
    have hmoves := KeyPath.moves_set (KeyPath.ofText e.1) he hlike ht hv'
    rw [spotAfter?]
    cases hafter : KeyPath.spotAfter? e.2 v
        (.key (KeyPath.ofText e.1).root :: (KeyPath.ofText e.1).steps) spot t with
    | none =>
      rw [hafter] at hmoves
      refine Tree.Moves.taken fun w hw => ?_
      exact congrArg (mergeOver · layer) (hmoves w hw)
    | some spot' =>
      rw [hafter] at hmoves
      obtain ⟨⟨v₁, hv₁, hlike₁⟩, -⟩ := id hmoves
      exact hmoves.trans (ih hlayer ((KeyPath.ofText e.1).set_ordered he ht) hv₁ hlike₁)

/-- No key of the layer is a path with an index from the end. -/
def FromFront (layer : Layer) : Prop :=
  ∀ e ∈ layer, ∀ i, .index i ∈ (KeyPath.ofText e.1).steps → 0 ≤ i

/-- A layer without indices from the end moves nothing. -/
theorem spotAfter?_of_fromFront {v v' : Tree} {layer : Layer} (hlayer : ∀ e ∈ layer, e.2.Ordered)
    (hfront : layer.FromFront) {spot spot' : List PathStep} {t : Tree} (ht : t.Ordered)
    (hv' : t.part? spot = some v') (hlike : Tree.Like v v')
    (h : spotAfter? v layer spot t = some spot') : spot' = spot := by
  induction layer generalizing spot t v' with
  | nil => exact (Option.some.inj h).symm
  | cons e layer ih =>
    obtain ⟨he, hlayer⟩ := List.forall_mem_cons.1 hlayer
    obtain ⟨hfront, hfronts⟩ := List.forall_mem_cons.1 hfront
    have hmoves := KeyPath.moves_set (KeyPath.ofText e.1) he hlike ht hv'
    rw [spotAfter?] at h
    cases hafter : KeyPath.spotAfter? e.2 v
        (.key (KeyPath.ofText e.1).root :: (KeyPath.ofText e.1).steps) spot t with
    | none =>
      rw [hafter] at h
      cases h
    | some spot₁ =>
      rw [hafter] at h hmoves
      obtain ⟨⟨v₁, hv₁, hlike₁⟩, -⟩ := hmoves
      have hsteps : ∀ i, PathStep.index i ∈
          (.key (KeyPath.ofText e.1).root :: (KeyPath.ofText e.1).steps) → 0 ≤ i := by
        intro i hi
        exact hfront i (by simpa using hi)
      rw [ih hlayer hfronts ((KeyPath.ofText e.1).set_ordered he ht) hv₁ hlike₁ h,
        KeyPath.spotAfter?_of_front hsteps hv' hafter]

end Layer

end AccessPolicy
