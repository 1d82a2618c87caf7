/-
Variables that set nothing: loading settings does not depend on them.

`Stack.load_filter` says so of any variables whose names have no key.
`Stack.load_withoutLogFilter` is about the variable that chooses the log records,
and so about all the files that a project has: without that variable, the same
files are found and the same settings loaded.
-/
import AccessPolicy.Files.Settings
import AccessPolicy.Proofs.VariableKeys

namespace AccessPolicy

theorem filterMap_filter_of_none {α β : Type} {p : α → Bool} {f : α → Option β}
    (h : ∀ x, p x = false → f x = none) (l : List α) : (l.filter p).filterMap f = l.filterMap f := by
  induction l with
  | nil => rfl
  | cons x l ih =>
    cases hp : p x with
    | false => rw [List.filter_cons_of_neg (by simp [hp]), ih, List.filterMap_cons_none (h x hp)]
    | true => rw [List.filter_cons_of_pos hp, List.filterMap_cons, List.filterMap_cons, ih]

namespace Variables

variable {marker : String} {keep : String → Bool}

theorem listKey?_of_key? {name : String} (h : key? marker name = none) : listKey? marker name = none := by
  rw [listKey?, h]
  rfl

theorem scalarKey?_of_key? {name : String} (h : key? marker name = none) :
    scalarKey? marker name = none := by
  rw [scalarKey?, h]
  rfl

theorem overrides_filter (h : ∀ name, keep name = false → listKey? marker name = none)
    (environment : List Variable) :
    overrides marker (environment.filter fun v => keep v.1) = overrides marker environment := by
  induction environment with
  | nil => rfl
  | cons v vs ih =>
    cases hv : keep v.1 with
    | false => rw [List.filter_cons_of_neg (by simp [hv]), ih, overrides, h v.1 hv]
    | true => rw [List.filter_cons_of_pos (by exact hv), overrides, overrides, ih]

theorem scalars_filter (h : ∀ name, keep name = false → scalarKey? marker name = none)
    (order : List String) (environment : List Variable) :
    scalars order marker (environment.filter fun v => keep v.1) = scalars order marker environment := by
  rw [scalars_eq, scalars_eq, NameMap.toList_ofList_filter, arrange_filter, filterMap_filter_of_none]
  · intro v hv
    rw [h v.1 hv]
    rfl

end Variables

namespace Stack

/-- Loading does not depend on variables whose names have no key. -/
theorem load_filter (s : Stack) {keep : String → Bool}
    (h : ∀ name, keep name = false → Variables.key? s.marker name = none) :
    load { s with environment := s.environment.filter fun v => keep v.1 } = s.load := by
  have hlist := fun name hname => Variables.listKey?_of_key? (h name hname)
  have hscalar := fun name hname => Variables.scalarKey?_of_key? (h name hname)
  simp only [load, layers, listLayer, singleLayer, singles, Variables.overrides_filter hlist,
    Variables.scalars_filter hscalar]
  rfl

end Stack

theorem Surroundings.valueOf?_filter (s : Surroundings) {p : String → Bool} {name : String}
    (h : p name = true) :
    Surroundings.valueOf? { s with environment := s.environment.filter fun v => p v.1 } name =
      s.valueOf? name := by
  rw [Surroundings.valueOf?, Surroundings.valueOf?, List.find?_filter]
  congr 2
  funext v
  by_cases hv : v.1 = name
  · simp [hv, h]
  · simp [hv]

/-! ## The choice of log records -/

/-- The surroundings without the variable that chooses the log records. -/
def Surroundings.withoutLogFilter (s : Surroundings) : Surroundings :=
  { s with environment := s.environment.filter fun v => v.1 != "RUST_LOG" }

theorem Stack.load_withoutLogFilter (t : FileTree) (s : Surroundings) (project : String)
    (explicit : Option String) :
    (Stack.ofFiles t s.withoutLogFilter project explicit).load =
      (Stack.ofFiles t s project explicit).load := by
  have hvalue : ∀ name, (name != "RUST_LOG") = true →
      s.withoutLogFilter.valueOf? name = s.valueOf? name := fun name hname =>
    Surroundings.valueOf?_filter s (p := fun n => n != "RUST_LOG") hname
  have hfolder : Locations.userFile? s.withoutLogFilter = Locations.userFile? s := by
    rw [Locations.userFile?, Locations.userFile?, Locations.userFolder?, Locations.userFolder?,
      Locations.configFolder?, Locations.configFolder?, Locations.home?, Locations.home?,
      hvalue "XDG_CONFIG_HOME" (by decide), hvalue "HOME" (by decide)]
    rfl
  have hkey : ∀ name, (name != "RUST_LOG") = false → Variables.key? "WARDEN" name = none := by
    intro name hname
    rw [bne_eq_false_iff_eq.1 hname]
    decide
  rw [← Stack.load_filter (Stack.ofFiles t s project explicit) hkey]
  simp only [Stack.ofFiles, hfolder]
  rfl

end AccessPolicy
