/-
What a TOML document may define where.

A document names its tables in headers, in dotted keys and in braces, and no
table may be defined twice. While it is read, each table therefore remembers
how it came about. The functions of this module add one definition each, and
fail if it clashes with an earlier one.
-/
import AccessPolicy.Toml.Scalar
import AccessPolicy.Names.Map

namespace AccessPolicy.Toml

/-- What stands under a key while a document is read. -/
inductive Item where
  /-- A complete value; nothing can be added to it. -/
  | value (t : Tree)
  /-- A table, with whether a header has defined it and whether dotted keys
  have. -/
  | table (defined dotted : Bool) (entries : List (String × Item))
  /-- A list of tables, each with a header; the last is open. -/
  | tables (earlier : List (List (String × Item))) (last : List (String × Item))

/-- To which tables without a header of their own dotted keys may add. -/
inductive KeyReach where
  /-- To those that have come about by dotted keys. They may lead through the others. -/
  | dotted
  /-- To all of them, which then count as if dotted keys had made them. -/
  | undefined
deriving DecidableEq

/-- The entries of a table that is being read. -/
abbrev Section := List (String × Item)

namespace Section

/-- What stands under a key. -/
def find? (k : String) (s : Section) : Option Item := NameMap.find k s

/-- The section with something else under a key. -/
def put (k : String) (i : Item) : Section → Section
  | [] => [(k, i)]
  | (k', i') :: s => if k = k' then (k, i) :: s else (k', i') :: put k i s

/-- Applies a definition to the table that a header path leads to; tables on
the way that do not exist yet are made. -/
def descend (define : Section → Option Section) : List String → Section → Option Section
  | [], s => define s
  | k :: ks, s =>
    match s.find? k with
    | none => (descend define ks []).map fun t => s.put k (.table false false t)
    | some (.table defined dotted t) =>
      (descend define ks t).map fun t => s.put k (.table defined dotted t)
    | some (.tables earlier last) =>
      (descend define ks last).map fun t => s.put k (.tables earlier t)
    | some (.value _) => none

/-- Opens the table of a header. It may exist only as part of the path of
other headers. -/
def openTable (k : String) (s : Section) : Option Section :=
  match s.find? k with
  | none => some (s.put k (.table true false []))
  | some (.table false false t) => some (s.put k (.table true false t))
  | some _ => none

/-- Opens the next table of a list of tables. -/
def openElement (k : String) (s : Section) : Option Section :=
  match s.find? k with
  | none => some (s.put k (.tables [] []))
  | some (.tables earlier last) => some (s.put k (.tables (earlier ++ [last]) []))
  | some _ => none

/-- Gives a dotted key its value. The tables on the way must be within the
reach of such keys, or are made by this one. -/
def assign (reach : KeyReach) (value : Tree) (k : String) :
    List String → Section → Option Section
  | [], s =>
    match s.find? k with
    | none => some (s.put k (.value value))
    | some _ => none
  | k' :: ks, s =>
    match s.find? k with
    | none => (assign reach value k' ks []).map fun t => s.put k (.table false true t)
    | some (.table false dotted t) =>
      match reach with
      | .dotted =>
        if ks.isEmpty && !dotted then none
        else (assign reach value k' ks t).map fun t => s.put k (.table false dotted t)
      | .undefined => (assign reach value k' ks t).map fun t => s.put k (.table false true t)
    | some (.tables earlier last) =>
      if ks.isEmpty then none
      else (assign reach value k' ks last).map fun t => s.put k (.tables earlier t)
    | some _ => none

mutual
/-- The tree of what stands under a key. -/
def itemTree : Item → Tree
  | .value t => t
  | .table _ _ entries => .table (NameMap.ofList (sectionTrees entries)).toList
  | .tables earlier last =>
    .list (tableTrees earlier ++ [.table (NameMap.ofList (sectionTrees last)).toList])

/-- The trees of the entries of a table. -/
def sectionTrees : List (String × Item) → List (String × Tree)
  | [] => []
  | (k, i) :: s => (k, itemTree i) :: sectionTrees s

/-- The trees of a list of tables. -/
def tableTrees : List (List (String × Item)) → List Tree
  | [] => []
  | s :: ss => .table (NameMap.ofList (sectionTrees s)).toList :: tableTrees ss
end

/-- The section as a tree, its entries ordered by their keys. -/
def toTree (s : Section) : Tree := .table (NameMap.ofList (sectionTrees s)).toList

end Section

end AccessPolicy.Toml
