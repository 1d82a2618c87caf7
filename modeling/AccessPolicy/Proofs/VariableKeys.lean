/-
The two ways in which environment variables are taken in, as lists and as single
values. Each way finds the key of a variable for itself, and takes the variable
in or leaves it to the other.

`collectedKey?_eq_key?` says that both find the same key, whatever the marker
and the name, and `isListKey_iff` which keys are those of lists. From these two
comes `taken_in_once`: the variables that are marked are shared out between the
two ways, each to one of them.
-/
import AccessPolicy.Layers.Variables
import AccessPolicy.Proofs.DottedPaths
import AccessPolicy.Proofs.LastEntry
import AccessPolicy.Proofs.Orders

namespace AccessPolicy.Variables

/-! ## Which variables count -/

/-- Whether the name of a variable starts with the marker and an underscore, in
whatever case. -/
def isMarked (marker name : String) : Bool :=
  ((Text.lowerCase marker).toList ++ ['_']).isPrefixOf (Text.lowerCase name).toList

/-- The variables whose names start with the marker. -/
def marked (marker : String) (environment : List Variable) : List Variable :=
  environment.filter fun v => isMarked marker v.1

/-- The key in a name that starts with the marker and an underscore: the rest of
it in lower case, with points for double underscores. -/
def keyOf (marker name : String) : String :=
  String.ofList (dotted ((Text.lowerCase name).toList.drop ((Text.lowerCase marker).toList.length + 1)))

theorem after?_eq : ∀ p l : List Char,
    after? p l = if p.isPrefixOf l then some (l.drop p.length) else none
  | [], _ => rfl
  | _ :: _, [] => rfl
  | c :: p, d :: l => by
    rw [after?, List.isPrefixOf_cons_cons, after?_eq p l]
    by_cases h : c = d <;> simp [h]

theorem key?_eq (marker name : String) :
    key? marker name = if isMarked marker name then some (keyOf marker name) else none := by
  rw [key?, after?_eq, isMarked, keyOf, List.length_append, List.length_singleton]
  split <;> rfl

theorem key?_of_not_marked {marker name : String} (h : isMarked marker name = false) :
    key? marker name = none := by
  rw [key?_eq, h]
  rfl

/-! ## Both ways find one key -/

/-- The marker goes to lower case by itself in one way, and with its underscore in
the other. The difference could only show at a final sigma, and there an
underscore is like the end of the text. -/
theorem collectedKey?_eq_key? (marker name : String) : collectedKey? marker name = key? marker name := by
  rw [key?, after?_eq, collectedKey?, Text.lowerCase_append_underscore]
  split <;> rfl

/-- The key of a variable that sets a single value. -/
def scalarKey? (marker name : String) : Option String :=
  (key? marker name).filter fun key => !isListKey key

/-- A variable that sets no list is collected under the key of a single value. -/
theorem filterMap_others {α : Type} (f : String → Variable → α) (marker : String)
    (environment : List Variable) :
    (environment.filter fun v => (listKey? marker v.1).isNone).filterMap
        (fun v => (collectedKey? marker v.1).map fun key => f key v) =
      environment.filterMap fun v => (scalarKey? marker v.1).map fun key => f key v := by
  rw [List.filterMap_filter]
  refine List.filterMap_congr fun v _ => ?_
  rw [collectedKey?_eq_key?, listKey?, scalarKey?]
  cases key? marker v.1 with
  | none => rfl
  | some key => cases hlist : isListKey key <;> simp [Option.filter_some, hlist]

theorem scalars_eq (order : List String) (marker : String) (environment : List Variable) :
    scalars order marker environment =
      .ofList ((arrange (·.1) order (NameMap.ofList environment).toList).filterMap fun v =>
        (scalarKey? marker v.1).map fun key => (key, scalar v.2)) := by
  rw [scalars, NameMap.toList_ofList_filter fun name => (listKey? marker name).isNone, arrange_filter]
  exact congrArg _ (filterMap_others (fun key v => (key, scalar v.2)) marker _)

/-! ## The last name of a key -/

/-- A key is its last name, or has a point before it. -/
theorem eq_lastName (key : String) :
    key = lastName key ∨ ∃ path, key = path ++ "." ++ lastName key := by
  obtain ⟨p, ps, hp⟩ := List.exists_cons_of_ne_nil (Text.pieces_ne_nil '.' key.toList)
  have hkey : key.toList = p ++ ps.flatMap ('.' :: ·) := Text.eq_of_pieces hp
  rw [lastName, Text.splitAt, hp]
  rcases ps.eq_nil_or_concat with rfl | ⟨qs, q, rfl⟩
  · exact .inl (String.toList_injective (by simpa using hkey))
  · refine .inr ⟨String.ofList (p ++ qs.flatMap ('.' :: ·)), String.toList_injective ?_⟩
    rw [List.concat_eq_append, ← List.cons_append, List.map_append, List.map_singleton,
      List.getLast?_concat]
    simpa using hkey

theorem lastName_eq_iff {key field : String} (hfield : '.' ∉ field.toList) :
    lastName key = field ↔ key = field ∨ ∃ path, key = path ++ "." ++ field := by
  have hsplit : Text.splitAt '.' field = [field] := by
    have h := @Text.splitAt_intercalate '.' "." rfl _ (List.cons_ne_nil field [])
      (List.forall_mem_singleton.2 hfield)
    rwa [String.intercalate_singleton] at h
  constructor
  · rintro rfl
    exact eq_lastName key
  · rintro (rfl | ⟨path, rfl⟩)
    · rw [lastName, hsplit]
      rfl
    · rw [lastName, Text.splitAt_append rfl, hsplit, List.getLast?_append]
      rfl

/-- The keys of lists end in one of the fields for lists. -/
theorem isListKey_iff {key : String} :
    isListKey key = true ↔ ∃ field ∈ listFields, key = field ∨ ∃ path, key = path ++ "." ++ field := by
  have hpoint : ∀ field ∈ listFields, '.' ∉ field.toList := by decide
  rw [isListKey, List.contains_iff_mem]
  constructor
  · intro h
    exact ⟨_, h, eq_lastName key⟩
  · rintro ⟨field, hmem, h⟩
    rwa [(lastName_eq_iff (hpoint field hmem)).2 h]

/-! ## The shares of both ways -/

/-- The variables that are marked, each under its key. -/
def keyed (marker : String) (environment : List Variable) : List (String × Variable) :=
  (marked marker environment).map fun v => (keyOf marker v.1, v)

/-- What is taken in as lists, under the keys that are found for lists. -/
def listShare (marker : String) (environment : List Variable) : List (String × Variable) :=
  environment.filterMap fun v => (listKey? marker v.1).map fun key => (key, v)

/-- What is taken in as single values: of the variables that set no list, those
with a key under which values are collected. -/
def singleShare (marker : String) (environment : List Variable) : List (String × Variable) :=
  (environment.filter fun v => (listKey? marker v.1).isNone).filterMap fun v =>
    (collectedKey? marker v.1).map fun key => (key, v)

/-- The list of a variable under a key. -/
def underKey (e : String × Variable) : Except String (String × Tree) :=
  if (KeyPath.parse? e.1).isNone then .error e.2.1 else .ok (e.1, .texts (names e.2.2))

/-- The single values of variables under their keys, as their names come. Of several
variables of one name the last counts. -/
def collect (order : List String) (share : List (String × Variable)) : NameMap Tree :=
  let byName := NameMap.ofList (share.map fun e => (e.2.1, e.1, e.2.2))
  .ofList ((arrange (·.1) order byName.toList).map fun e => (e.2.1, scalar e.2.2))

/-- Variables chosen by their keys. -/
theorem filterMap_filter_key? (p : String → Bool) (marker : String) (environment : List Variable) :
    (environment.filterMap fun v => ((key? marker v.1).filter p).map fun key => (key, v)) =
      (keyed marker environment).filter fun e => p e.1 := by
  rw [keyed, marked, ← List.filterMap_eq_map, List.filterMap_filter, List.filter_filterMap]
  refine List.filterMap_congr fun v _ => ?_
  rw [key?_eq]
  cases isMarked marker v.1 with
  | false => rfl
  | true => cases hp : p (keyOf marker v.1) <;> simp [Option.filter_some, hp]

theorem listShare_eq (marker : String) (environment : List Variable) :
    listShare marker environment = (keyed marker environment).filter fun e => isListKey e.1 :=
  filterMap_filter_key? isListKey marker environment

theorem singleShare_eq (marker : String) (environment : List Variable) :
    singleShare marker environment = (keyed marker environment).filter fun e => !isListKey e.1 := by
  rw [singleShare, filterMap_others fun key v => (key, v)]
  exact filterMap_filter_key? (fun key => !isListKey key) marker environment

theorem overrides_eq_mapM (marker : String) (environment : List Variable) :
    overrides marker environment = (listShare marker environment).mapM underKey := by
  induction environment with
  | nil => rfl
  | cons v vs ih =>
    rw [overrides, listShare, List.filterMap_cons]
    cases listKey? marker v.1 with
    | none => exact ih
    | some key =>
      rw [Option.map_some, List.mapM_cons, underKey]
      dsimp only
      split
      · rfl
      · rw [ih]
        rfl

/-- Whether the variable sets a list under a key that is no path. -/
def isAstray (marker : String) (v : Variable) : Bool :=
  match listKey? marker v.1 with
  | none => false
  | some key => (KeyPath.parse? key).isNone

/-- The lists of variables can be taken in unless one is astray, and the first that
is gets the blame. -/
theorem overrides_eq (marker : String) (environment : List Variable) :
    overrides marker environment = match environment.find? (isAstray marker) with
      | some v => .error v.1
      | none => .ok ((listShare marker environment).map fun e => (e.1, .texts (names e.2.2))) := by
  induction environment with
  | nil => rfl
  | cons v vs ih =>
    rw [overrides, listShare, List.filterMap_cons, List.find?_cons, isAstray]
    cases listKey? marker v.1 with
    | none => exact ih
    | some key =>
      dsimp only [Option.map_some]
      cases hparse : (KeyPath.parse? key).isNone with
      | true => rfl
      | false =>
        rw [if_neg (by simp), ih]
        cases vs.find? (isAstray marker) <;> rfl

/-- A list that is taken in is one of the variables, under its key, and that is a path. -/
theorem exists_of_mem_overrides {marker : String} {environment : List Variable} {l : Layer}
    (h : overrides marker environment = .ok l) {e : String × Tree} (he : e ∈ l) :
    ∃ v ∈ environment, listKey? marker v.1 = some e.1 ∧ (KeyPath.parse? e.1).isSome = true ∧
      e.2 = .texts (names v.2) := by
  rw [overrides_eq] at h
  split at h
  · cases h
  · rename_i hnone
    cases h
    obtain ⟨w, hkv, rfl⟩ := List.mem_map.1 he
    obtain ⟨v, hv, hkey⟩ := List.mem_filterMap.1 hkv
    obtain ⟨key, hlist, rfl⟩ := Option.map_eq_some_iff.1 hkey
    have hpath := List.find?_eq_none.1 hnone v hv
    simp only [isAstray, hlist, Bool.not_eq_true, Option.isNone_eq_false_iff] at hpath
    exact ⟨v, hv, hlist, hpath, rfl⟩

theorem scalars_eq_collect (order : List String) (marker : String) (environment : List Variable) :
    scalars order marker environment = collect order (singleShare marker environment) := by
  have hnames := NameMap.toList_ofList_filterMap
    (fun name => (collectedKey? marker name).map fun key value => (key, value))
    (environment.filter fun v => (listKey? marker v.1).isNone)
  simp only [Option.map_map, Function.comp_def] at hnames
  have hkey : ∀ (v : Variable) (e : String × String × String),
      ((collectedKey? marker v.1).map fun key => (v.1, key, v.2)) = some e → e.1 = v.1 := by
    intro v e he
    obtain ⟨key, -, rfl⟩ := Option.map_eq_some_iff.1 he
    rfl
  rw [scalars, collect, singleShare, List.map_filterMap]
  simp only [Option.map_map, Function.comp_def, hnames]
  rw [arrange_filterMap hkey, List.map_filterMap]
  simp only [Option.map_map, Function.comp_def]

/-- **Every variable is taken in once, and under one key.** For every name both
ways find the same key: the rest of the name, if it starts with the marker, and
else none. The variables with keys are shared out between them by the last names
of these keys, and no others are taken in. What the ways come to is made of the
variables in their shares, under the keys that they have there. -/
theorem taken_in_once (marker : String) (environment : List Variable) :
    (∀ name, collectedKey? marker name = key? marker name ∧
      key? marker name = if isMarked marker name then some (keyOf marker name) else none) ∧
    (∀ key, isListKey key = true ↔
      ∃ field ∈ listFields, key = field ∨ ∃ path, key = path ++ "." ++ field) ∧
    listShare marker environment = (keyed marker environment).filter (fun e => isListKey e.1) ∧
    singleShare marker environment = (keyed marker environment).filter (fun e => !isListKey e.1) ∧
    overrides marker environment = (listShare marker environment).mapM underKey ∧
    ∀ order, scalars order marker environment = collect order (singleShare marker environment) :=
  ⟨fun name => ⟨collectedKey?_eq_key? marker name, key?_eq marker name⟩, fun _ => isListKey_iff,
    listShare_eq marker environment, singleShare_eq marker environment,
    overrides_eq_mapM marker environment, fun order => scalars_eq_collect order marker environment⟩

/-- Three underscores are a point and an underscore, and so the last name is no field for lists. -/
example : listKey? "WARDEN" "WARDEN_OPS__VALUES" = some "ops.values" ∧
    listKey? "WARDEN" "WARDEN_OPS___VALUES" = none ∧
    collectedKey? "WARDEN" "WARDEN_OPS___VALUES" = some "ops._values" := by decide +kernel

/-- A sigma that ends the marker is a final one in both ways. -/
example : listKey? "ΟΔΟΣ" "Οδος_Locked" = some "locked" ∧
    collectedKey? "ΟΔΟΣ" "Οδος_Locked" = some "locked" := by decide +kernel

end AccessPolicy.Variables
