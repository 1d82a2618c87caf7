/-
What becomes of the files among the layers of settings. Settings are loaded
only if each file that can be read is a document, and then every entry of each
of them is merged in; a file that is no document stops the loading, wherever it
stands. That is `Stack.load_files`.

A file is read as text before it is read as a document. Bytes that stand for no
character do not stop that: they are replaced. A file that is text is read as
just that text (`Layer.textOf_of_text`). And a file that is there but cannot be
read is passed over, unless it is named on purpose. A single file is read with
more care, and neither would do there (`Stack.load_garbled`).
-/
import AccessPolicy.Files.Settings
import AccessPolicy.Proofs.Orders
import AccessPolicy.Proofs.Records
import AccessPolicy.Proofs.Utf8
import Mathlib.Data.List.Forall2

namespace AccessPolicy

namespace Layer

/-! ## A single file -/

/-- The file is a document of the entries, which come in some order. -/
def Holds (content : Bytes) (entries : Layer) : Prop :=
  ∃ es, Toml.ofText? dialect (textOf content) = some (.table es) ∧ entries.Perm es

mutual
/-- No value of a document is changed for the merging. -/
theorem value?_eq : ∀ {t t' : Tree}, value? t = some t' → t' = t
  | .integer i, t', h => by
    rw [value?] at h
    split at h
    · cases h
      rfl
    · cases h
  | .list ts, t', h => by
    rw [value?] at h
    obtain ⟨us, hus, rfl⟩ := Option.map_eq_some_iff.1 h
    rw [values?_eq hus]
  | .table es, t', h => by
    rw [value?] at h
    obtain ⟨fs, hfs, rfl⟩ := Option.map_eq_some_iff.1 h
    rw [entries?_eq hfs]
  | .null, t', h | .bool _, t', h | .float _, t', h | .text _, t', h => by
    cases h
    rfl

theorem values?_eq : ∀ {ts us : List Tree}, values? ts = some us → us = ts
  | [], us, h => by
    cases h
    rfl
  | t :: ts, us, h => by
    obtain ⟨u, hu, h⟩ := Option.bind_eq_some_iff.1 h
    obtain ⟨us', hus', h⟩ := Option.bind_eq_some_iff.1 h
    cases h
    rw [value?_eq hu, values?_eq hus']

theorem entries?_eq : ∀ {es fs : List (String × Tree)}, entries? es = some fs → fs = es
  | [], fs, h => by
    cases h
    rfl
  | (key, t) :: es, fs, h => by
    obtain ⟨u, hu, h⟩ := Option.bind_eq_some_iff.1 h
    obtain ⟨fs', hfs', h⟩ := Option.bind_eq_some_iff.1 h
    cases h
    rw [value?_eq hu, entries?_eq hfs']
end

/-- The layer of a file is all of its document. -/
theorem ofText?_of_ofFile? {content : Bytes} {layer : Layer} (h : ofFile? content = some layer) :
    Toml.ofText? dialect (textOf content) = some (.table layer) := by
  obtain ⟨t, ht, h⟩ := Option.bind_eq_some_iff.1 h
  rw [ofTree?] at h
  split at h
  · rename_i es hes
    cases h
    rw [ht, ← value?_eq hes]
  · cases h

theorem holds_of_ofFile? {content : Bytes} {layer entries : Layer} (h : ofFile? content = some layer)
    (hperm : entries.Perm layer) : Holds content entries :=
  ⟨layer, ofText?_of_ofFile? h, hperm⟩

/-- **A file that is text is read as that text**, but for a mark of the byte
order in front of it. -/
theorem textOf_of_text {content : Bytes} {s : String} (h : Text.ofBytes? content = some s) :
    s = textOf content ∨ s = "\ufeff" ++ textOf content := by
  have hs : Text.ofBytesLossy content = s := Text.ofBytesLossy_of_ofBytes? h
  unfold textOf
  split
  · rename_i bs
    right
    have hmark : Text.characters (0xef :: 0xbb :: 0xbf :: bs) = some '\ufeff' :: Text.characters bs :=
      Text.characters_cons _ _
    rw [← hs, Text.ofBytesLossy, hmark, List.map_cons, Option.getD_some, ← List.singleton_append,
      String.ofList_append]
    rfl
  · exact .inl hs.symm

/-! ## Merging entries in -/

/-- Merging at a path changes what is under the key that the path starts with. -/
theorem find_set (p : KeyPath) (v t : Tree) (k : String) :
    NameMap.find k (p.set v t).entries = if k = p.root then
      some (KeyPath.change (fun old => old.merge v) p.steps ((NameMap.find k t.entries).getD .null))
      else NameMap.find k t.entries := by
  show NameMap.find k (NameMap.place p.root _ t.entries) = _
  rw [NameMap.find_place]
  by_cases hk : k = p.root
  · rw [if_pos hk, if_pos hk, hk]
  · rw [if_neg hk, if_neg hk]

/-- Merging at a path leaves a key where there was one, and where the path starts. -/
theorem isSome_find_set (p : KeyPath) (v t : Tree) (k : String) :
    (NameMap.find k (p.set v t).entries).isSome = true ↔
      k = p.root ∨ (NameMap.find k t.entries).isSome = true := by
  rw [find_set]
  by_cases hk : k = p.root <;> simp [hk]

/-- A merged layer leaves the keys that were there, and adds those that its
entries start with. -/
theorem isSome_find_mergeOver (layer : Layer) (t : Tree) (k : String) :
    (NameMap.find k (mergeOver t layer).entries).isSome = true ↔
      (∃ e ∈ layer, k = (KeyPath.ofText e.1).root) ∨ (NameMap.find k t.entries).isSome = true := by
  induction layer generalizing t with
  | nil => simp [mergeOver]
  | cons e layer ih =>
    show (NameMap.find k (mergeOver ((KeyPath.ofText e.1).set e.2 t) layer).entries).isSome = true ↔ _
    rw [ih, isSome_find_set]
    simp only [List.mem_cons, exists_eq_or_imp]
    exact or_left_comm.trans or_assoc.symm

end Layer

namespace Stack

/-- The keys of merged layers are those that the entries of all layers start with. -/
theorem isSome_find_merged (layers : List Layer) (k : String) :
    (NameMap.find k (merged layers).entries).isSome = true ↔
      ∃ layer ∈ layers, ∃ e ∈ layer, k = (KeyPath.ofText e.1).root := by
  have hfold : ∀ (ls : List Layer) (t : Tree),
      (NameMap.find k (ls.foldl Layer.mergeOver t).entries).isSome = true ↔
        (∃ layer ∈ ls, ∃ e ∈ layer, k = (KeyPath.ofText e.1).root) ∨
          (NameMap.find k t.entries).isSome = true := by
    intro ls
    induction ls with
    | nil => simp
    | cons layer ls ih =>
      intro t
      rw [List.foldl_cons, ih, Layer.isSome_find_mergeOver]
      simp only [List.mem_cons, exists_eq_or_imp]
      exact or_left_comm.trans or_assoc.symm
  rw [merged, hfold]
  simp [Tree.entries, NameMap.find]

/-! ## The files of a stack -/

/-- The files under the variables, from the lowest to the highest. -/
def lowerFiles (s : Stack) : List Bytes := s.user.toList ++ s.project.toList ++ s.personal.toList

/-- The file over the variables. -/
def upperFiles (s : Stack) : List Bytes :=
  match s.explicit with
  | some (.present content) => [content]
  | _ => []

/-- All files that are there. -/
def files (s : Stack) : List Bytes := s.lowerFiles ++ s.upperFiles

/-- The layers of some files and the variables between them. -/
def pile (lower : List Layer) (singles lists : Layer) (upper : List Layer) : List Layer :=
  [({} : Settings).toTree.entries] ++ lower ++ [singles, lists] ++ upper

/-- Loading comes to some settings, and these are taken from the entries of all
files and variables, each merged in at its key, a higher layer over those below. -/
def LoadsFrom (s : Stack) (c : Settings) (lower upper : List Layer) : Prop :=
  ∃ singles lists, s.singleLayer = .ok singles ∧ s.listLayer = .ok lists ∧
    settings (merged (pile lower singles lists upper)) = .ok c ∧
    ∀ layer ∈ lower ++ upper, ∀ e ∈ layer,
      (NameMap.find (KeyPath.ofText e.1).root
        (merged (pile lower singles lists upper)).entries).isSome = true

theorem taken_eq_ok_iff {room : Nat} {order : List String} {source : Option Layer} {layer : Layer} :
    taken room order source = .ok layer ↔
      ∃ es, source = some es ∧ es.fits room = true ∧ layer = arrange (·.1) order es := by
  cases source with
  | none => simp [taken]
  | some es =>
    by_cases hfits : es.fits room = true
    · simp only [taken, hfits, if_true, Except.ok.injEq, Option.some.injEq, exists_eq_left', true_and]
      exact eq_comm
    · simp [taken, hfits]

/-- The layers of a stack that can all be taken. -/
theorem layers_eq_ok_iff {s : Stack} {ls : List Layer} : s.layers = .ok ls ↔
    ∃ lists user project personal singles named, s.listLayer = .ok lists ∧
      s.userLayer = .ok user ∧ s.projectLayer = .ok project ∧ s.personalLayer = .ok personal ∧
      s.singleLayer = .ok singles ∧ s.namedLayer = .ok named ∧
      ls = [({} : Settings).toTree.entries, user, project, personal, singles, lists, named] := by
  simp only [layers, Except.bind_eq_ok, exists_and_left]
  simp only [pure, Except.pure, Except.ok.injEq, eq_comm (a := ls)]

/-- A file that is not there is as good as an empty one. -/
theorem fileLayer_holds {content : Option Bytes} {room : Nat} {order : List String} {layer : Layer}
    (h : taken room order (fileLayer content) = .ok layer) :
    ∃ layers, List.Forall₂ Layer.Holds content.toList layers ∧
      ∀ t, layers.foldl Layer.mergeOver t = Layer.mergeOver t layer := by
  obtain ⟨es, hes, -, rfl⟩ := taken_eq_ok_iff.1 h
  cases content with
  | none =>
    cases hes
    exact ⟨[], .nil, fun t => by rw [arrange_nil]; rfl⟩
  | some content =>
    exact ⟨[_], .cons (Layer.holds_of_ofFile? hes (perm_arrange _ order es)) .nil, fun _ => rfl⟩

theorem namedLayer_holds {s : Stack} {layer : Layer} (h : s.namedLayer = .ok layer) :
    ∃ layers, List.Forall₂ Layer.Holds s.upperFiles layers ∧
      ∀ t, layers.foldl Layer.mergeOver t = Layer.mergeOver t layer := by
  obtain ⟨es, hes, -, rfl⟩ := taken_eq_ok_iff.1 h
  rw [upperFiles]
  generalize s.explicit = file at hes
  match file with
  | none =>
    cases hes
    exact ⟨[], .nil, fun t => by rw [arrange_nil]; rfl⟩
  | some .missing => cases hes
  | some (.present content) =>
    exact ⟨[_], .cons (Layer.holds_of_ofFile? hes (perm_arrange _ _ es)) .nil, fun _ => rfl⟩

/-- If a stack can be loaded, all its files are documents, and the settings are
taken from these. -/
theorem load_eq_ok {s : Stack} {c : Settings} (h : s.load = .ok c) :
    ∃ lower upper, List.Forall₂ Layer.Holds s.lowerFiles lower ∧
      List.Forall₂ Layer.Holds s.upperFiles upper ∧ s.LoadsFrom c lower upper := by
  obtain ⟨ls, hls, hsettings⟩ := Except.bind_eq_ok.1 h
  obtain ⟨lists, user, project, personal, singles, named, hlists, hu, hp, hl, hsingles, hn, rfl⟩ :=
    layers_eq_ok_iff.1 hls
  obtain ⟨users, husers, hfoldUsers⟩ := fileLayer_holds hu
  obtain ⟨projects, hprojects, hfoldProjects⟩ := fileLayer_holds hp
  obtain ⟨personals, hpersonals, hfoldPersonals⟩ := fileLayer_holds hl
  obtain ⟨upper, hupper, hfoldUpper⟩ := namedLayer_holds hn
  have hpile : merged (pile (users ++ projects ++ personals) singles lists upper) =
      merged [({} : Settings).toTree.entries, user, project, personal, singles, lists, named] := by
    simp only [merged, pile, List.foldl_append, List.foldl_cons, List.foldl_nil, hfoldUsers,
      hfoldProjects, hfoldPersonals, hfoldUpper]
  refine ⟨users ++ projects ++ personals, upper,
    List.rel_append (List.rel_append husers hprojects) hpersonals, hupper, singles, lists, hsingles,
    hlists, by rw [hpile]; exact hsettings, fun layer hlayer e he => ?_⟩
  refine (isSome_find_merged _ _).2 ⟨layer, ?_, e, he, rfl⟩
  rcases List.mem_append.1 hlayer with hlayer | hlayer
  · exact List.mem_append_left _ (List.mem_append_left _ (List.mem_append_right _ hlayer))
  · exact List.mem_append_right _ hlayer

theorem exists_right_of_mem {α β : Type} {R : α → β → Prop} {a : α} {l : List α} {l' : List β}
    (h : List.Forall₂ R l l') (ha : a ∈ l) : ∃ b ∈ l', R a b := by
  induction h with
  | nil => cases ha
  | cons hab _ ih =>
    rcases List.mem_cons.1 ha with rfl | ha
    · exact ⟨_, by simp, hab⟩
    · obtain ⟨b, hb, hR⟩ := ih ha
      exact ⟨b, List.mem_cons_of_mem _ hb, hR⟩

/-- A file that is no document stops the loading. -/
theorem exists_load_eq_error {s : Stack} {content : Bytes} (hmem : content ∈ s.files)
    (hnone : Toml.ofText? Layer.dialect (Layer.textOf content) = none) : ∃ e, s.load = .error e := by
  cases hload : s.load with
  | error e => exact ⟨e, rfl⟩
  | ok c =>
    obtain ⟨lower, upper, hlower, hupper, -⟩ := load_eq_ok hload
    obtain ⟨entries, -, es, hes, -⟩ :=
      exists_right_of_mem (List.rel_append hlower hupper) hmem
    rw [hnone] at hes
    cases hes

/-! ## Files on disk -/

/-- The layers of a project, with or without the file of the user, and with a
marker for the variables. -/
def ofProject (t : FileTree) (around : Surroundings) (project : String) (explicit : Option String)
    (withUser : Bool) (marker : String) : Stack :=
  { ofFiles t around project explicit with
    user := if withUser then (ofFiles t around project explicit).user else none
    marker := marker }

/-- Where the layers of a project under the variables are looked for. -/
def lowerPaths (around : Surroundings) (project : String) (withUser : Bool) : List String :=
  (if withUser then (Locations.userFile? around).toList else [])
    ++ [Locations.projectFile project, Locations.personalFile project]

variable {t : FileTree} {here : Place} {path : String}

/-- A path with a file at it means that file, if the file can be read. -/
theorem source?_of_file (h : (t.file? here path).isSome = true) :
    source? t here path = (t.read here path).toOption := by
  rw [source?, sourcePath, if_pos h]

theorem layerFile_of_file (h : (t.file? here path).isSome = true) :
    layerFile t here path = (t.read here path).toOption := by
  have hcontains : t.contains here path = true := by
    obtain ⟨content, hfile⟩ := Option.isSome_iff_exists.1 h
    rw [FileTree.file?] at hfile
    split at hfile
    · rename_i hentry
      rw [FileTree.contains, hentry]
      rfl
    · cases hfile
  rw [layerFile, if_pos hcontains, source?_of_file h]

theorem namedFile_of_file (h : (t.file? here path).isSome = true) :
    namedFile t here path = match t.read here path with
      | .ok content => .present content
      | .error _ => .missing := by
  unfold namedFile
  simp only [source?_of_file h]
  cases t.read here path with
  | ok content => simp only [Except.toOption]
  | error e => simp only [Except.toOption]

theorem filterMap_toList {α β : Type} (f : α → Option β) (o : Option α) :
    o.toList.filterMap f = (o.bind f).toList := by
  cases o with
  | none => rfl
  | some a => cases h : f a <;> simp [h]

/-- The files under the variables are those at their places that can be read. -/
theorem lowerFiles_ofProject (t : FileTree) (around : Surroundings) (project : String)
    (explicit : Option String) (withUser : Bool) (marker : String) :
    (ofProject t around project explicit withUser marker).lowerFiles =
      (lowerPaths around project withUser).filterMap (layerFile t around.here) := by
  have huser : (if withUser then (Locations.userFile? around).toList else []).filterMap
      (layerFile t around.here) = (ofProject t around project explicit withUser marker).user.toList := by
    cases withUser with
    | false => rfl
    | true => exact filterMap_toList ..
  have hothers : [Locations.projectFile project, Locations.personalFile project].filterMap
      (layerFile t around.here) = (layerFile t around.here (Locations.projectFile project)).toList ++
        (layerFile t around.here (Locations.personalFile project)).toList := by
    rw [← List.singleton_append, List.filterMap_append, ← Option.toList_some, ← Option.toList_some,
      filterMap_toList, filterMap_toList, Option.bind_some, Option.bind_some]
  rw [lowerPaths, List.filterMap_append, huser, hothers, ← List.append_assoc]
  rfl

/-- A file that is named and missing stops the loading. -/
theorem exists_load_of_missing {s : Stack} (h : s.explicit = some .missing) :
    ∃ e, s.load = .error e := by
  cases hload : s.load with
  | error e => exact ⟨e, rfl⟩
  | ok c =>
    obtain ⟨ls, hls, -⟩ := Except.bind_eq_ok.1 hload
    obtain ⟨-, -, -, -, -, named, -, -, -, -, -, hnamed, -⟩ := layers_eq_ok_iff.1 hls
    obtain ⟨es, hes, -⟩ := taken_eq_ok_iff.1 hnamed
    rw [h] at hes
    cases hes

/-! ## All files -/

/-- **Which files among the layers count.** If loading comes to some settings,
each file is a document, and all its entries are merged into what the settings
are taken from; a file that is no document stops the loading, whichever it is.
Text is read as it stands. On disk, a file at one of the places for layers is
among them if it can be read. If it cannot, it is passed over under the
variables, and stops the loading over them. -/
theorem load_files (s : Stack) :
    (∀ c, s.load = .ok c → ∃ lower upper, List.Forall₂ Layer.Holds s.lowerFiles lower ∧
      List.Forall₂ Layer.Holds s.upperFiles upper ∧ s.LoadsFrom c lower upper) ∧
    (∀ content ∈ s.files, Toml.ofText? Layer.dialect (Layer.textOf content) = none →
      ∃ e, s.load = .error e) ∧
    (∀ content ∈ s.files, ∀ text, Text.ofBytes? content = some text →
      text = Layer.textOf content ∨ text = "\ufeff" ++ Layer.textOf content) ∧
    ∀ t around project explicit withUser marker,
      s = ofProject t around project explicit withUser marker →
      s.lowerFiles = (lowerPaths around project withUser).filterMap (layerFile t around.here) ∧
      (∀ path, (t.file? around.here path).isSome = true →
        layerFile t around.here path = (t.read around.here path).toOption) ∧
      ∀ path ∈ explicit, (t.file? around.here path).isSome = true →
        match t.read around.here path with
        | .ok content => s.upperFiles = [content]
        | .error _ => ∃ e, s.load = .error e := by
  refine ⟨fun c => load_eq_ok, fun content hmem hnone => exists_load_eq_error hmem hnone,
    fun content _ text htext => Layer.textOf_of_text htext, ?_⟩
  rintro t around project explicit withUser marker rfl
  refine ⟨lowerFiles_ofProject .., fun path => layerFile_of_file, fun path hpath hfile => ?_⟩
  have hnamed := namedFile_of_file hfile
  cases hread : t.read around.here path with
  | ok content => simp [upperFiles, ofProject, ofFiles, Option.mem_def.1 hpath, hnamed, hread]
  | error e =>
    refine exists_load_of_missing ?_
    simp [ofProject, ofFiles, Option.mem_def.1 hpath, hnamed, hread]

/-- A list of one name, whose only byte is part of no character. -/
def garbled : Bytes := Text.toBytes "locked = ['" ++ 0xff :: Text.toBytes "']"

/-- A project with a file of settings. -/
def oneFile (content : Bytes) (hindrance : Hindrance) : FileTree where
  entries := [([Locations.projectName], .file content)]
  hindrances := [([Locations.projectName], hindrance)]

/-- A file that is no text may still be a document: what stands for no character
is replaced by one that says so. And a file that may not be read is passed over.
As a single file neither can be read. -/
theorem load_garbled :
    (Text.ofBytes? garbled = none ∧ garbled ∈ files { project := some garbled } ∧
      load { project := some garbled } = .ok { locked := .ofList ["\ufffd"] }) ∧
    (ofFiles (oneFile garbled {}) { here := [] } "." none).load =
      .ok { locked := .ofList ["\ufffd"] } ∧
    Settings.ofFile (oneFile garbled {}) [] "warden.toml" =
      .error (.unreadable "warden.toml" .notText) ∧
    let vault := oneFile (Text.toBytes "locked = ['vault']") { read := some .denied }
    vault.contains [] "warden.toml" = true ∧
      (ofFiles vault { here := [] } "." none).load = .ok {} ∧
      Settings.ofFile vault [] "warden.toml" = .error (.unreadable "warden.toml" .denied) := by
  refine ⟨⟨?_, ?_, ?_⟩, ?_, ?_, ?_, ?_, ?_⟩ <;> decide +kernel

end Stack

end AccessPolicy
