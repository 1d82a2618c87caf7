/-
Trees with the entries of their tables in the order of their keys, as documents
are read to them: what stands in such a tree, and in one that such a tree goes
over.
-/
import AccessPolicy.Proofs.Documents
import AccessPolicy.Proofs.JsonText
import AccessPolicy.Proofs.LastEntry

namespace AccessPolicy

namespace Tree

mutual
/-- The tree with the entries of each table in the order of their keys. -/
def sorted : Tree → Tree
  | .list ts => .list (sortedItems ts)
  | .table es => .table (NameMap.ofList (sortedEntries es)).toList
  | t => t

/-- The elements of a list, each in order. -/
def sortedItems : List Tree → List Tree
  | [] => []
  | t :: ts => t.sorted :: sortedItems ts

/-- The entries of a table, each value in order. -/
def sortedEntries : List (String × Tree) → List (String × Tree)
  | [] => []
  | (key, t) :: es => (key, t.sorted) :: sortedEntries es
end

theorem sortedItems_eq_map (ts : List Tree) : sortedItems ts = ts.map sorted := by
  induction ts with
  | nil => rfl
  | cons t ts ih => rw [sortedItems, ih, List.map_cons]

theorem sortedEntries_eq_map (es : List (String × Tree)) :
    sortedEntries es = es.map fun e => (e.1, e.2.sorted) := by
  induction es with
  | nil => rfl
  | cons e es ih => rw [sortedEntries, ih, List.map_cons]

mutual
theorem ordered_sorted : ∀ t : Tree, t.sorted.Ordered
  | .null => .null
  | .bool b => .bool b
  | .integer i => .integer i
  | .float x => .float x
  | .text s => .text s
  | .list ts => .list (ordered_sortedItems ts)
  | .table es => .ofList (ordered_sortedEntries es)

theorem ordered_sortedItems : ∀ ts : List Tree, ∀ t ∈ sortedItems ts, t.Ordered
  | [] => by simp [sortedItems]
  | t :: ts => by
    rw [sortedItems, List.forall_mem_cons]
    exact ⟨ordered_sorted t, ordered_sortedItems ts⟩

theorem ordered_sortedEntries : ∀ es : List (String × Tree), ∀ e ∈ sortedEntries es, e.2.Ordered
  | [] => by simp [sortedEntries]
  | (_, t) :: es => by
    rw [sortedEntries, List.forall_mem_cons]
    exact ⟨ordered_sorted t, ordered_sortedEntries es⟩
end

/-- What stands under a key of a table in order. -/
theorem find_sorted (k : String) (es : List (String × Tree)) :
    NameMap.find k (sorted (.table es)).entries = (NameMap.last? k es).map sorted := by
  show (NameMap.ofList (sortedEntries es)).get? k = _
  rw [NameMap.get?_ofList, sortedEntries_eq_map, NameMap.last?_map fun _ => sorted]

/-- What stands under a key of a table that goes over another tree. -/
theorem find_merge_sorted (old : Tree) (k : String) (es : List (String × Tree)) :
    NameMap.find k (old.merge (sorted (.table es))).entries = match NameMap.last? k es with
      | none => NameMap.find k old.entries
      | some t => some (((NameMap.find k old.entries).getD .null).merge t.sorted) := by
  have hincreasing : (sorted (.table es)).entries.Pairwise (·.1 < ·.1) :=
    (ordered_sorted (.table es)).increasing
  show NameMap.find k (old.merge (.table (sorted (.table es)).entries)).entries = _
  rw [merge_table, entries_table, find_mergeEntries hincreasing, find_sorted]
  cases NameMap.last? k es <;> rfl

theorem sorted_texts (l : List String) : (Tree.texts l).sorted = .texts l := by
  rw [texts, sorted, sortedItems_eq_map, List.map_map]
  rfl

theorem numberFreeEntries_iff {es : List (String × Tree)} :
    numberFreeEntries es = true ↔ ∀ e ∈ es, e.2.numberFree = true := by
  induction es with
  | nil => simp [numberFreeEntries]
  | cons e es ih => rw [numberFreeEntries, Bool.and_eq_true, ih, List.forall_mem_cons]

mutual
theorem numberFree_sorted : ∀ {t : Tree}, t.numberFree = true → t.sorted.numberFree = true
  | .null, _ | .bool _, _ | .text _, _ => rfl
  | .list ts, h => numberFree_sortedItems ts h
  | .table es, h => numberFreeEntries_iff.2 fun _ he =>
      numberFree_sortedEntries es h _ (NameMap.mem_of_mem_ofList he)

theorem numberFree_sortedItems : ∀ ts : List Tree, numberFreeItems ts = true →
    numberFreeItems (sortedItems ts) = true
  | [], _ => rfl
  | t :: ts, h => by
    obtain ⟨ht, hts⟩ := Bool.and_eq_true_iff.1 h
    rw [sortedItems, numberFreeItems, numberFree_sorted ht, numberFree_sortedItems ts hts]
    rfl

theorem numberFree_sortedEntries : ∀ es : List (String × Tree), numberFreeEntries es = true →
    ∀ e ∈ sortedEntries es, e.2.numberFree = true
  | [], _ => by simp [sortedEntries]
  | (_, t) :: es, h => by
    obtain ⟨ht, hes⟩ := Bool.and_eq_true_iff.1 h
    rw [sortedEntries, List.forall_mem_cons]
    exact ⟨numberFree_sorted ht, numberFree_sortedEntries es hes⟩
end

end Tree

namespace Layer

mutual
/-- A document without numbers can be merged. -/
theorem value?_of_numberFree : ∀ {t : Tree}, t.numberFree = true → value? t = some t
  | .null, _ | .bool _, _ | .text _, _ => rfl
  | .list ts, h => by rw [value?, values?_of_numberFree h, Option.map_some]
  | .table es, h => by rw [value?, entries?_of_numberFree h, Option.map_some]

theorem values?_of_numberFree : ∀ {ts : List Tree}, Tree.numberFreeItems ts = true →
    values? ts = some ts
  | [], _ => rfl
  | t :: ts, h => by
    obtain ⟨ht, hts⟩ := Bool.and_eq_true_iff.1 h
    rw [values?, value?_of_numberFree ht, values?_of_numberFree hts]
    rfl

theorem entries?_of_numberFree : ∀ {es : List (String × Tree)}, Tree.numberFreeEntries es = true →
    entries? es = some es
  | [], _ => rfl
  | (_, t) :: es, h => by
    obtain ⟨ht, hes⟩ := Bool.and_eq_true_iff.1 h
    rw [entries?, value?_of_numberFree ht, entries?_of_numberFree hes]
    rfl
end

end Layer

end AccessPolicy
