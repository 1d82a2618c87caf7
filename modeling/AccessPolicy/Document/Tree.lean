/-
Trees of data: what a document says, whatever notation it is written in.

It can be decided whether two trees are the same (`Tree.same_iff`).
-/
import AccessPolicy.Number.Binary64

namespace AccessPolicy

/-- A tree of data. Tables keep their entries in the order of writing. -/
inductive Tree where
  | null
  | bool (b : Bool)
  | integer (i : Int)
  | float (x : Binary64)
  | text (s : String)
  | list (items : List Tree)
  | table (entries : List (String × Tree))
deriving Inhabited

namespace Tree

/-- The list of some texts. -/
def texts (l : List String) : Tree := .list (l.map .text)

mutual
/-- Whether two trees are the same. -/
def same : Tree → Tree → Bool
  | .null, .null => true
  | .bool a, .bool b => a == b
  | .integer a, .integer b => a == b
  | .float a, .float b => a == b
  | .text a, .text b => a == b
  | .list ts, .list us => sameItems ts us
  | .table es, .table fs => sameEntries es fs
  | _, _ => false

/-- Whether two lists have the same elements. -/
def sameItems : List Tree → List Tree → Bool
  | [], [] => true
  | t :: ts, u :: us => same t u && sameItems ts us
  | _, _ => false

/-- Whether two tables have the same entries. -/
def sameEntries : List (String × Tree) → List (String × Tree) → Bool
  | [], [] => true
  | (key, t) :: es, (key', u) :: fs => key == key' && same t u && sameEntries es fs
  | _, _ => false
end

mutual
theorem same_iff : ∀ t u : Tree, same t u = true ↔ t = u
  | .null, u => by cases u <;> simp [same]
  | .bool _, u => by cases u <;> simp [same]
  | .integer _, u => by cases u <;> simp [same]
  | .float _, u => by cases u <;> simp [same]
  | .text _, u => by cases u <;> simp [same]
  | .list ts, u => by cases u <;> simp [same, sameItems_iff ts]
  | .table es, u => by cases u <;> simp [same, sameEntries_iff es]

theorem sameItems_iff : ∀ ts us : List Tree, sameItems ts us = true ↔ ts = us
  | [], us => by cases us <;> simp [sameItems]
  | t :: ts, us => by cases us <;> simp [sameItems, same_iff t, sameItems_iff ts]

theorem sameEntries_iff : ∀ es fs : List (String × Tree), sameEntries es fs = true ↔ es = fs
  | [], fs => by cases fs <;> simp [sameEntries]
  | (key, t) :: es, fs => by
    cases fs <;> simp [sameEntries, same_iff t, sameEntries_iff es, Prod.ext_iff]
end

instance : DecidableEq Tree := fun t u => decidable_of_iff _ (same_iff t u)

end Tree

end AccessPolicy
