/-
Layers of settings: values, and the paths where they are merged in.

The entries of a layer are merged in one after the other. A source of settings
does not keep the order of its entries, and may give them out in another each
time that it is asked. So the order is a parameter, a list of keys: `arrange`
brings entries into it.
-/
import AccessPolicy.Layers.KeyPath

namespace AccessPolicy

/-! ## Orders -/

section

variable {ε κ : Type} [DecidableEq κ]

/-- The items in an order of their keys. Items whose keys the order does not name
come last, as they stand. -/
def arrange (key : ε → κ) : List κ → List ε → List ε
  | [], l => l
  | k :: order, l => (l.filter fun e => key e = k) ++ arrange key order (l.filter fun e => key e ≠ k)

/-- Of several items with one key the last. -/
def lastOfEach (key : ε → κ) : List ε → List ε
  | [] => []
  | e :: l => if l.any fun e' => key e' = key e then lastOfEach key l else e :: lastOfEach key l

end

/-! ## Layers -/

/-- The content of a layer: values and the paths where they are merged in. -/
abbrev Layer := List (String × Tree)

namespace Layer

/-- The path where an entry is merged in. -/
def pathOf (e : String × Tree) : KeyPath := .ofText e.1

/-- Merges a layer over a tree, entry by entry. -/
def mergeOver (t : Tree) (layer : Layer) : Tree :=
  layer.foldl (fun t e => (pathOf e).set e.2 t) t

/-- Whether there is room for all lists that the entries ask for. -/
def fits (room : Nat) (layer : Layer) : Bool := layer.all fun e => (pathOf e).fits room

end Layer

end AccessPolicy
