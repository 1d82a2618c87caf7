/-
The orders in which the entries of the sources come, and what of the loading
depends on them.

What stands in the way of taking a source does not (`Stack.obstacle?_orders`): a
file that cannot be read, or a key that asks for a list that there is no room for.
What the layers are merged to may, but not if the paths of the entries of each
source part (`Stack.load_orders`).
-/
import AccessPolicy.Proofs.Merging

namespace AccessPolicy

namespace Variables

variable {marker : String} {environment : List Variable}

/-- In whatever order their names come, the variables set the same single keys. -/
theorem exists_scalars (order order' : List String) {e : String × Tree}
    (he : e ∈ (scalars order marker environment).toList) :
    ∃ e' ∈ (scalars order' marker environment).toList, e'.1 = e.1 := by
  rw [scalars_eq] at he
  obtain ⟨v, hv, hve⟩ := List.mem_filterMap.1 (NameMap.mem_of_mem_ofList he)
  have hkey : e.1 ∈ (scalars order' marker environment).keys := by
    rw [scalars_eq]
    exact NameMap.mem_keys_ofList.2
      ⟨e, List.mem_filterMap.2 ⟨v, mem_arrange.2 (mem_arrange.1 hv), hve⟩, rfl⟩
  exact List.mem_map.1 hkey

theorem fits_scalars (room : Nat) (order order' : List String) :
    Layer.fits room (scalars order marker environment).toList =
      Layer.fits room (scalars order' marker environment).toList := by
  have hfits : ∀ order order' : List String,
      Layer.fits room (scalars order marker environment).toList = true →
      Layer.fits room (scalars order' marker environment).toList = true := by
    intro order order' h
    refine List.all_eq_true.2 fun e he => ?_
    obtain ⟨e', he', hkey⟩ := exists_scalars order' order he
    rw [Layer.pathOf, ← hkey]
    exact List.all_eq_true.1 h e' he'
  exact Bool.eq_iff_iff.2 ⟨hfits order order', hfits order' order⟩

end Variables

namespace Stack

open Variables

/-! ## What stands in the way -/

/-- Why a source cannot be taken. -/
def obstacle (room : Nat) : Option Layer → Option LoadError
  | none => some .badFile
  | some layer => if layer.fits room then none else some .noRoom

/-- The sources as they are taken: the lists that variables set, and then the others
from the lowest to the highest. -/
def sources (s : Stack) : List (Option Layer) := [
  some (listed s.marker s.environment), fileLayer s.user, fileLayer s.project, fileLayer s.personal,
  some s.singles.toList, explicitLayer s.explicit]

/-- What stands in the way of the first source that cannot be taken. -/
def obstacle? (s : Stack) : Option LoadError := s.sources.findSome? (obstacle s.room)

theorem obstacle?_cases {s : Stack} {e : LoadError} (h : s.obstacle? = some e) :
    e = .badFile ∨ e = .noRoom := by
  obtain ⟨source, -, h⟩ := List.exists_of_findSome?_eq_some h
  cases source with
  | none =>
    cases h
    exact .inl rfl
  | some layer =>
    rw [obstacle] at h
    split at h
    · cases h
    · cases h
      exact .inr rfl

theorem taken_eq (room : Nat) (order : List String) (source : Option Layer) :
    taken room order source = match obstacle room source with
      | some e => .error e
      | none => .ok (arrange (·.1) order (source.getD [])) := by
  cases source with
  | none => rfl
  | some layer =>
    rw [taken, obstacle]
    split <;> rfl

theorem listLayer_eq {s : Stack} (h : s.environment.find? (isAstray s.marker) = none) :
    s.listLayer = match obstacle s.room (some (listed s.marker s.environment)) with
      | some e => .error e
      | none => .ok (lists s.orders.lists (listed s.marker s.environment)).entries := by
  have hoverrides := overrides_eq_listed h
  rw [listLayer, hoverrides, obstacle]
  show (if _ then _ else _) = _
  split <;> rfl

/-- **What stops the loading before the merging.** Of the variables that set a list
under a key that is no path the first; or else what stands in the way of the first
source that cannot be taken. -/
theorem layers_eq_obstacle (s : Stack) :
    match s.environment.find? (isAstray s.marker) with
    | some v => s.layers = .error (.badVariable v.1)
    | none => match s.obstacle? with
      | some e => s.layers = .error e
      | none => ∃ ls, s.layers = .ok ls := by
  cases hfind : s.environment.find? (isAstray s.marker) with
  | some v =>
    have hoverrides := overrides_eq s.marker s.environment
    rw [hfind] at hoverrides
    show s.layers = _
    rw [layers, listLayer, hoverrides]
    rfl
  | none =>
    rw [layers, listLayer_eq hfind, obstacle?, sources, userLayer, projectLayer, personalLayer,
      singleLayer, namedLayer]
    simp only [taken_eq, List.findSome?_cons, List.findSome?_nil]
    cases obstacle s.room (some (listed s.marker s.environment)) with
    | some e => rfl
    | none =>
    cases obstacle s.room (fileLayer s.user) with
    | some e => rfl
    | none =>
    cases obstacle s.room (fileLayer s.project) with
    | some e => rfl
    | none =>
    cases obstacle s.room (fileLayer s.personal) with
    | some e => rfl
    | none =>
    cases obstacle s.room (some s.singles.toList) with
    | some e => rfl
    | none =>
    cases obstacle s.room (explicitLayer s.explicit) with
    | some e => rfl
    | none => exact ⟨_, rfl⟩

/-- It is the same in whatever orders the entries come. -/
theorem obstacle?_orders (s : Stack) (orders : Orders) : obstacle? { s with orders } = s.obstacle? := by
  have hsingles : obstacle s.room (some (singles { s with orders }).toList) =
      obstacle s.room (some s.singles.toList) := by
    rw [obstacle, obstacle, singles, singles, fits_scalars]
  simp only [obstacle?, sources, List.findSome?_cons, hsingles]

/-- Why the loading does not come back. -/
theorem load_eq_noRoom_iff {s : Stack} : s.load = .error .noRoom ↔
    s.environment.find? (isAstray s.marker) = none ∧ s.obstacle? = some .noRoom := by
  have hlayers := layers_eq_obstacle s
  rw [load]
  cases hfind : s.environment.find? (isAstray s.marker) with
  | some v =>
    rw [hfind] at hlayers
    rw [show s.layers = _ from hlayers]
    simp [bind, Except.bind]
  | none =>
    rw [hfind] at hlayers
    cases hobstacle : s.obstacle? with
    | some e =>
      rw [hobstacle] at hlayers
      rw [show s.layers = _ from hlayers]
      constructor
      · intro h
        cases h
        exact ⟨rfl, rfl⟩
      · rintro ⟨-, h⟩
        cases h
        rfl
    | none =>
      rw [hobstacle] at hlayers
      obtain ⟨ls, hls⟩ := hlayers
      rw [hls]
      constructor
      · intro h
        cases settings_eq_error h
      · rintro ⟨-, h⟩
        cases h

/-- Whether it comes back does not depend on the orders. -/
theorem load_eq_noRoom_orders (s : Stack) (orders : Orders) :
    load { s with orders } = .error .noRoom ↔ s.load = .error .noRoom := by
  rw [load_eq_noRoom_iff, load_eq_noRoom_iff, obstacle?_orders]

/-! ## Sources whose orders do not matter -/

/-- The paths of the entries of each source part, and no two variables are two names
for one single value. -/
structure Steady (s : Stack) : Prop where
  user : ∀ layer ∈ fileLayer s.user, layer.Pairwise Layer.Parted
  project : ∀ layer ∈ fileLayer s.project, layer.Pairwise Layer.Parted
  personal : ∀ layer ∈ fileLayer s.personal, layer.Pairwise Layer.Parted
  explicit : ∀ layer ∈ explicitLayer s.explicit, layer.Pairwise Layer.Parted
  single : Single s.marker s.environment
  singles : (scalars [] s.marker s.environment).toList.Pairwise Layer.Parted
  lists : (lastOfEach Layer.pathOf (listed s.marker s.environment)).Pairwise Layer.Parted

variable {s : Stack}

theorem Steady.merger_listLayer (h : s.Steady) (orders : Orders) :
    merger (listLayer { s with orders }) = merger s.listLayer := by
  have htree : ∀ order, Variables.lists order (listed s.marker s.environment) =
      Layer.mergeOver (.table []) (lastOfEach Layer.pathOf (listed s.marker s.environment)) :=
    fun order => Layer.mergeOver_perm h.lists (perm_arrange _ order _) _
  cases hfind : s.environment.find? (isAstray s.marker) with
  | some v =>
    have hoverrides := overrides_eq s.marker s.environment
    rw [hfind] at hoverrides
    rw [listLayer, listLayer, hoverrides]
    rfl
  | none => rw [listLayer_eq (s := { s with orders }) hfind, listLayer_eq hfind, htree, htree]

theorem Steady.merger_singleLayer (h : s.Steady) (orders : Orders) :
    merger (singleLayer { s with orders }) = merger s.singleLayer := by
  have hsame : ∀ order, scalars order s.marker s.environment = scalars [] s.marker s.environment :=
    fun order => NameMap.ext fun key => by rw [get?_scalars h.single, get?_scalars h.single]
  rw [singleLayer, singleLayer, Stack.singles, Stack.singles, hsame, hsame s.orders.names]
  refine merger_taken (fun es hes => ?_) _ _
  cases hes
  exact h.singles

/-- **Where the orders do not matter**, what is loaded is the same in any. -/
theorem load_orders (h : s.Steady) (orders : Orders) : load { s with orders } = s.load := by
  have huser : merger (userLayer { s with orders }) = merger s.userLayer := merger_taken h.user _ _
  have hproject : merger (projectLayer { s with orders }) = merger s.projectLayer :=
    merger_taken h.project _ _
  have hpersonal : merger (personalLayer { s with orders }) = merger s.personalLayer :=
    merger_taken h.personal _ _
  have hnamed : merger (namedLayer { s with orders }) = merger s.namedLayer :=
    merger_taken h.explicit _ _
  rw [load_eq_mergers, load_eq_mergers, h.merger_listLayer, huser, hproject, hpersonal,
    h.merger_singleLayer, hnamed]

end Stack

end AccessPolicy
