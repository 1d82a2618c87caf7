/-
Why settings cannot be loaded (`Stack.load_errors`).

There are three reasons, and the first that applies is reported: a variable that
sets a list under a key that is no path, of several the first; a file that
cannot be read, or is named and not there; and merged layers that are no
settings. What is wrong with the types of values in a single layer counts only
as far as it is left in the merged layers.

A key that asks for a list that there is no room for is reported by nobody: the
program stops there. Whether it comes to that key is a matter of the sources below
(`Stack.obstacle`).
-/
import AccessPolicy.Proofs.EntryOrder
import AccessPolicy.Proofs.Misfits

namespace AccessPolicy

namespace Stack

open Variables

theorem merged_append (lower higher : List Layer) :
    merged (lower ++ higher) = Layer.mergeOver (merged lower) higher.flatten := by
  rw [merged, List.foldl_append, Layer.mergeOver, List.foldl_flatten]
  rfl

/-- Nothing in an empty tree is of the wrong type. -/
theorem not_misfit_of_empty {spot : List PathStep} {v : Tree}
    (h : (Tree.table []).part? spot = some v) : ¬ v.Misfit spot := by
  intro hmisfit
  obtain ⟨-, shape, hs, htakes⟩ := hmisfit
  match spot with
  | [] =>
    cases h
    cases hs
    cases htakes
  | .key _ :: _ => cases h
  | .index (.ofNat _) :: _ => cases h
  | .index (.negSucc _) :: _ => cases h

/-! ## Values of the wrong type -/

/-- Loading comes to an error with the text. -/
def FailsWith (s : Stack) (text : String) : Prop := ∃ e, s.load = .error e ∧ e.message = text

/-- A value stands at a spot of the merged lower layers where it is of the wrong
type, and the other layers go over it. -/
structure Mistyped (s : Stack) (lower higher : List Layer) (spot : List PathStep) (v : Tree) :
    Prop where
  layers : s.layers = .ok (lower ++ higher)
  part : (merged lower).part? spot = some v
  misfit : v.Misfit spot

variable {s : Stack} {lower higher : List Layer} {spot : List PathStep} {v : Tree}

theorem load_of_layers {ls : List Layer} (h : s.layers = .ok ls) : s.load = settings (merged ls) := by
  rw [load, h]
  rfl

theorem failsWith_of_layers {e : LoadError} (h : s.layers = .error e) : s.FailsWith e.message := by
  refine ⟨e, ?_, rfl⟩
  rw [load, h]
  rfl

theorem Mistyped.ordered (h : s.Mistyped lower higher spot v) :
    (merged lower).Ordered ∧ ∀ e ∈ higher.flatten, e.2.Ordered := by
  obtain ⟨upper, hupper, hordered⟩ := exists_layers_upper h.layers
  cases lower with
  | nil => exact absurd h.misfit (not_misfit_of_empty h.part)
  | cons base lower =>
    rw [List.cons_append, List.cons.injEq] at hupper
    obtain ⟨rfl, rfl⟩ := hupper
    obtain ⟨hlower, hhigher⟩ := List.forall_mem_append.1 hordered
    refine ⟨(merged_isOrderedTable hlower).1, fun e he => ?_⟩
    obtain ⟨layer, hlayer, he⟩ := List.mem_flatten.1 he
    exact hhigher layer hlayer e he

theorem Mistyped.moves (h : s.Mistyped lower higher spot v) :
    Tree.Moves (Layer.mergeOver · higher.flatten) v spot (merged lower)
      (Layer.spotAfter? v higher.flatten spot (merged lower)) :=
  Layer.moves_mergeOver h.ordered.2 h.ordered.1 h.part (Tree.Like.refl v)

/-- A value whose place is taken does no harm: any other value without entries
and elements might stand there. -/
theorem Mistyped.load_of_taken (h : s.Mistyped lower higher spot v)
    (hafter : Layer.spotAfter? v higher.flatten spot (merged lower) = none) {w : Tree}
    (hentries : w.entries = []) (hitems : w.items = []) :
    s.load = settings (Layer.mergeOver ((merged lower).plant spot w) higher.flatten) := by
  have hmoves := h.moves
  rw [hafter] at hmoves
  have heq : Layer.mergeOver ((merged lower).plant spot w) higher.flatten =
      Layer.mergeOver (merged lower) higher.flatten :=
    hmoves w ⟨fun _ => hentries, fun _ => hitems⟩
  rw [load_of_layers h.layers, merged_append, heq]

/-- A value that is left stands in all merged layers. -/
theorem Mistyped.part_of_left (h : s.Mistyped lower higher spot v) {spot' : List PathStep}
    (hafter : Layer.spotAfter? v higher.flatten spot (merged lower) = some spot') :
    ∃ v', (merged (lower ++ higher)).part? spot' = some v' ∧ v.Like v' := by
  have hmoves := h.moves
  rw [hafter] at hmoves
  rw [merged_append]
  exact hmoves.1

/-- It stops the loading, unless it does where it has got to. -/
theorem Mistyped.failsWith_of_left (h : s.Mistyped lower higher spot v) {spot' : List PathStep}
    (hafter : Layer.spotAfter? v higher.flatten spot (merged lower) = some spot')
    (hmisfit : v.Misfit spot') : s.FailsWith "Failed to deserialize configuration" := by
  obtain ⟨v', hv', hlike⟩ := h.part_of_left hafter
  refine ⟨.badSettings, ?_, rfl⟩
  rw [load_of_layers h.layers, settings_of_misfit hv' (hmisfit.like hlike)]

/-- It stays where it is, unless an index from the end moves it. -/
theorem Mistyped.stays (h : s.Mistyped lower higher spot v) {spot' : List PathStep}
    (hafter : Layer.spotAfter? v higher.flatten spot (merged lower) = some spot')
    (hfront : ∀ layer ∈ higher, layer.FromFront) : spot' = spot := by
  have hfront : Layer.FromFront higher.flatten := by
    intro e he
    obtain ⟨layer, hlayer, he⟩ := List.mem_flatten.1 he
    exact hfront layer hlayer e he
  exact Layer.spotAfter?_of_fromFront h.ordered.2 hfront h.ordered.1 h.part (Tree.Like.refl v) hafter

/-! ## Loading -/

/-- If all layers can be read, loading is a matter of the merged layers only. -/
theorem load_of_layers_cases {ls : List Layer} (h : s.layers = .ok ls) :
    match Layers.format.readSettings (merged ls) with
    | .ok c => s.load = .ok c
    | .error _ => s.FailsWith "Failed to deserialize configuration" := by
  cases hread : Layers.format.readSettings (merged ls) with
  | ok c => rw [load_of_layers h, settings_eq_ok_iff.2 hread]
  | error e =>
    refine ⟨.badSettings, ?_, rfl⟩
    rw [load_of_layers h, settings, hread]
    rfl

/-- What stands in the way of the first source that cannot be taken stops the loading:
it is reported, or the program stops there. -/
theorem load_of_obstacle {e : LoadError} (hfind : s.environment.find? (isAstray s.marker) = none)
    (h : s.obstacle? = some e) : s.load = .error e := by
  have hlayers := layers_eq_obstacle s
  rw [hfind, h] at hlayers
  rw [load, show s.layers = .error e from hlayers]
  rfl

/-- **What layers are loaded to, or which error is reported.** -/
theorem load_errors (s : Stack) :
    (match s.environment.find? (isAstray s.marker) with
      | some v => s.FailsWith ("Invalid list override in " ++ v.1)
      | none => match s.sources.findSome? (obstacle s.room) with
        | some .noRoom => s.load = .error .noRoom
        | some _ => s.FailsWith "Failed to build configuration"
        | none => ∃ ls, s.layers = .ok ls ∧
          match Layers.format.readSettings (merged ls) with
          | .ok c => s.load = .ok c
          | .error _ => s.FailsWith "Failed to deserialize configuration") ∧
    (match s.load with
      | .ok c => s.loadOrDefault = some c
      | .error .noRoom => s.loadOrDefault = none
      | .error _ => s.loadOrDefault = some {}) ∧
    ∀ lower higher spot v, s.Mistyped lower higher spot v →
      match Layer.spotAfter? v higher.flatten spot (merged lower) with
      | none => ∀ w : Tree, w.entries = [] → w.items = [] →
        s.load = settings (Layer.mergeOver ((merged lower).plant spot w) higher.flatten)
      | some spot' =>
        (∃ v', (merged (lower ++ higher)).part? spot' = some v' ∧ v.Like v') ∧
        (v.Misfit spot' → s.FailsWith "Failed to deserialize configuration") ∧
        ((∀ layer ∈ higher, layer.FromFront) → spot' = spot) := by
  refine ⟨?_, ?_, ?_⟩
  · cases hfind : s.environment.find? (isAstray s.marker) with
    | some v =>
      have hlayers := layers_eq_obstacle s
      rw [hfind] at hlayers
      exact failsWith_of_layers hlayers
    | none =>
      have hlayers := layers_eq_obstacle s
      rw [hfind] at hlayers
      cases hobstacle : s.obstacle? with
      | none =>
        rw [hobstacle] at hlayers
        obtain ⟨ls, hls⟩ := hlayers
        rw [show s.sources.findSome? (obstacle s.room) = none from hobstacle]
        exact ⟨ls, hls, load_of_layers_cases hls⟩
      | some e =>
        have hload := load_of_obstacle hfind hobstacle
        rw [show s.sources.findSome? (obstacle s.room) = some e from hobstacle]
        rcases obstacle?_cases hobstacle with rfl | rfl
        · exact ⟨_, hload, rfl⟩
        · exact hload
  · cases hload : s.load with
    | ok c => rw [loadOrDefault, hload]
    | error e => cases e <;> rw [loadOrDefault, hload]
  · intro lower higher spot v h
    cases hafter : Layer.spotAfter? v higher.flatten spot (merged lower) with
    | none => exact fun w => h.load_of_taken hafter
    | some spot' =>
      exact ⟨h.part_of_left hafter, h.failsWith_of_left hafter, h.stays hafter⟩

/-- The level is a list in the file of the project, and the file of this copy
of the project replaces it. -/
def relevelled : Stack where
  project := some (Text.toBytes "logging.level = []")
  personal := some (Text.toBytes "logging.level = 'debug'")

/-- The list does no harm: nothing at all might stand there. On its own the file
of the project cannot be loaded. -/
theorem load_relevelled : ∃ lower higher,
    relevelled.Mistyped lower higher [.key "logging", .key "level"] (.list []) ∧
    relevelled.load = settings (Layer.mergeOver
      ((merged lower).plant [.key "logging", .key "level"] .null) higher.flatten) ∧
    FailsWith { project := relevelled.project } "Failed to deserialize configuration" := by
  have hlayers : relevelled.layers = .ok ([({} : Settings).toTree.entries, [],
      [("logging", .table [("level", .list [])])]] ++
      [[("logging", .table [("level", .text "debug")])], [], [], []]) := by
    decide +kernel
  have halone : layers { project := relevelled.project } = .ok ([({} : Settings).toTree.entries, [],
      [("logging", .table [("level", .list [])])]] ++ [[], [], [], []]) := by
    decide +kernel
  have hmisfit : (Tree.list []).Misfit [.key "logging", .key "level"] := ⟨by simp, .text, rfl, rfl⟩
  have h : relevelled.Mistyped _ _ [.key "logging", .key "level"] (.list []) :=
    ⟨hlayers, rfl, hmisfit⟩
  have hload := (load_errors relevelled).2.2 _ _ _ _ h
  have hfails := (load_errors { project := relevelled.project }).2.2 _ _ _ _ ⟨halone, rfl, hmisfit⟩
  exact ⟨_, _, h, hload .null rfl rfl, hfails.2.1 hmisfit⟩

/-- The logging has a text in the place of whether there is an audit, and the
file of this copy of the project has an index before the front of it. -/
def pushed : Stack where
  project := some (Text.toBytes "logging = ['on', 'maybe']")
  personal := some (Text.toBytes "\"logging[-3]\" = 'debug'")

/-- The text is not replaced, but it is pushed to where nothing is wanted. -/
theorem load_pushed : ∃ lower higher,
    pushed.Mistyped lower higher [.key "logging", .index 1] (.text "maybe") ∧
    (merged (lower ++ higher)).part? [.key "logging", .index 2] = some (.text "maybe") ∧
    load { project := pushed.project } = .error .badSettings ∧
    pushed.load = .ok { logging := { level := "debug", audit := true } } := by
  have hlayers : pushed.layers = .ok ([({} : Settings).toTree.entries, [],
      [("logging", .list [.text "on", .text "maybe"])]] ++
      [[("logging[-3]", .text "debug")], [], [], []]) := by
    decide +kernel
  refine ⟨_, _, ⟨hlayers, rfl, by simp, .bool, rfl, rfl⟩, rfl, ?_, ?_⟩ <;> decide +kernel

end Stack

end AccessPolicy
