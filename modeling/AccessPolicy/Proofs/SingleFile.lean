/-
A single file read by the types of its fields, and the same file as the only
layer.

Both come to the same settings (`Stack.load_ofFile`) if the reader of layers
takes the file, no key of it is a path into a field, and no date stands where
the logging settings or a rule belong. Such a date is passed over by the one
reading and stops the other. Nothing else that is unknown makes a difference.
-/
import AccessPolicy.Files.Settings
import AccessPolicy.Proofs.Branches
import AccessPolicy.Proofs.Lenient
import AccessPolicy.Proofs.Merging
import AccessPolicy.Proofs.UnsetVariables

namespace AccessPolicy

/-! ## Keys of a layer -/

/-- The names of the fields of the settings. -/
def Settings.fieldNames : List String := ["locked", "logging", "policies"]

namespace Layer

/-- A key leads to a field of the settings only if it is the name of the field. -/
def Direct (layer : Layer) : Prop :=
  ∀ e ∈ layer, (KeyPath.ofText e.1).root ∈ Settings.fieldNames → e.1 ∈ Settings.fieldNames

/-- No text stands where the logging settings or a rule belong. In a file that
can be read by the types of the fields, only dates and times are such texts. -/
structure Undated (layer : Layer) : Prop where
  logging : ∀ s, NameMap.find "logging" layer ≠ some (.text s)
  rules : ∀ p, NameMap.find "policies" layer = some p → ∀ e ∈ p.entries, ∀ s, e.2 ≠ .text s

theorem ofText_of_mem {k : String} (hk : k ∈ Settings.fieldNames) : KeyPath.ofText k = ⟨k, []⟩ := by
  have hall : ∀ k ∈ Settings.fieldNames, KeyPath.ofText k = ⟨k, []⟩ := by decide
  exact hall k hk

/-- Under the name of a field, a layer without paths into fields is merged like
a table. -/
theorem find_mergeOver {k : String} (hk : k ∈ Settings.fieldNames) : ∀ {layer : Layer} {t : Tree}
    {es : List (String × Tree)}, layer.Direct → NameMap.find k t.entries = NameMap.find k es →
    NameMap.find k (mergeOver t layer).entries = NameMap.find k (Tree.mergeEntries es layer)
  | [], t, es, _, h => by
    rw [Tree.mergeEntries]
    exact h
  | (key, v) :: layer, t, es, hdirect, h => by
    obtain ⟨hkey, hlayer⟩ := List.forall_mem_cons.1 hdirect
    rw [Tree.mergeEntries]
    show NameMap.find k (mergeOver ((KeyPath.ofText key).set v t) layer).entries = _
    refine find_mergeOver hk hlayer ?_
    rw [find_set, NameMap.find_place]
    by_cases hroot : k = (KeyPath.ofText key).root
    · have hpath := ofText_of_mem (hkey (hroot ▸ hk))
      obtain rfl : k = key := by rw [hroot, hpath]
      rw [if_pos hroot, if_pos rfl, hpath, h]
      rfl
    · have hne : k ≠ key := by
        rintro rfl
        exact hroot (by rw [ofText_of_mem hk])
      rw [if_neg hroot, if_neg hne, h]

/-- What comes to be under a key is a matter of the entries that lead there. -/
theorem find_mergeOver_filter (k : String) : ∀ (layer : Layer) {t t' : Tree},
    NameMap.find k t.entries = NameMap.find k t'.entries →
    NameMap.find k (mergeOver t layer).entries =
      NameMap.find k (mergeOver t' (layer.filter fun e => (pathOf e).root = k)).entries
  | [], _, _, h => h
  | e :: layer, t, t', h => by
    show NameMap.find k (mergeOver ((pathOf e).set e.2 t) layer).entries = _
    by_cases hroot : (pathOf e).root = k
    · rw [List.filter_cons_of_pos (by simpa using hroot)]
      refine find_mergeOver_filter k layer ?_
      rw [find_set, find_set, h]
    · rw [List.filter_cons_of_neg (by simpa using hroot)]
      refine find_mergeOver_filter k layer ?_
      rw [find_set, if_neg (Ne.symm hroot), h]

/-- Under the name of a field, the order of a layer without paths into fields does
not matter. -/
theorem find_mergeOver_arrange {k : String} (hk : k ∈ Settings.fieldNames) {layer : Layer}
    (hdirect : layer.Direct) (hkeys : (layer.map (·.1)).Nodup) (order : List String) (t : Tree) :
    NameMap.find k (mergeOver t (arrange (·.1) order layer)).entries =
      NameMap.find k (mergeOver t layer).entries := by
  have hkey : ∀ e ∈ layer, (pathOf e).root = k → e.1 = k := by
    intro e he hroot
    rw [← hroot, pathOf, ofText_of_mem (hdirect e he (hroot ▸ hk))]
  have hone : (layer.filter fun e => (pathOf e).root = k).Pairwise Parted := by
    refine ((List.pairwise_map.1 hkeys).filter _).imp_of_mem fun {e e'} he he' hne => ?_
    obtain ⟨he, hroot⟩ := List.mem_filter.1 he
    obtain ⟨he', hroot'⟩ := List.mem_filter.1 he'
    exact absurd ((hkey e he (by simpa using hroot)).trans (hkey e' he' (by simpa using hroot')).symm)
      hne
  rw [find_mergeOver_filter k (arrange (·.1) order layer) rfl, find_mergeOver_filter k layer rfl,
    ← arrange_filter, mergeOver_arrange hone]

end Layer

/-! ## Reading merged entries -/

/-- What no table is read to goes over anything. -/
theorem Carries.over {α : Type} {read read' : Tree → Except ReadError α} (h : Carries read read')
    (htable : ∀ es a, read' (.table es) ≠ .ok a) {t u : Tree} (htu : t.Alike u) (d : Tree) {a : α}
    (ha : read t = .ok a) : read' (d.merge u) = .ok a := by
  have hu := h t u htu a ha
  have hne : ∀ es, u ≠ .table es := by
    rintro es rfl
    exact htable es a hu
  rw [Tree.merge_scalar hne]
  exact hu

namespace Layers

open Format (EntryReads)

variable {es fs old : List (String × Tree)}

/-- What the entry of a key is read to, the entry that goes over the default is
read to as well. -/
theorem entryReads_mergeEntries {α : Type} {read read' : Tree → Except ReadError α} {default b : α}
    {key : String} {d : Tree} (hd : NameMap.find key old = some d) (hdefault : read' d = .ok default)
    (hfs : fs.Pairwise (·.1 < ·.1)) (hes : List.Forall₂ (Keyed Tree.Alike) es fs)
    (hread : ∀ t u, NameMap.find key es = some t → NameMap.find key fs = some u → t.Alike u →
      read t = .ok b → read' (d.merge u) = .ok b)
    (h : EntryReads read default key es b) :
    EntryReads read' default key (Tree.mergeEntries old fs) b := by
  have hkey := NameMap.find_keyed hes key
  rw [EntryReads, Tree.find_mergeEntries hfs, hd]
  rw [EntryReads] at h
  generalize hu : NameMap.find key fs = y at hkey
  generalize ht : NameMap.find key es = x at hkey h
  cases hkey with
  | none =>
    rw [show b = default from h]
    exact hdefault
  | some htu => exact hread _ _ ht hu htu h

/-- The logging settings go over the defaults, unless they are a date. -/
theorem readLogging_merge {t u : Tree} (htu : t.Alike u) (ht : t.Ordered) (hu : u.Ordered)
    (hnot : ∀ s, u ≠ .text s) {l : Logging} (h : Toml.format.readLogging t = .ok l) :
    format.readLogging
      (Tree.merge (.table [("audit", .bool true), ("level", .text "warn")]) u) = .ok l := by
  have hd : Tree.Ordered (.table [("audit", .bool true), ("level", .text "warn")]) :=
    Stack.defaults_ordered.find (k := "logging") rfl
  have hordered := hd.merge hu
  cases htu with
  | list hts =>
    rw [Tree.merge_scalar (by simp)]
    exact readRecord_carries loggingFields_carry (.list hts) hnot h
  | table hes =>
    rw [Tree.merge_table] at hordered ⊢
    have hreads := (Format.readLogging_eq_ok_iff (fun _ => rfl) rfl ht.nodup).1 h
    refine (readLogging_table_iff hordered).2 ⟨?_, ?_⟩
    · exact entryReads_mergeEntries rfl rfl hu.increasing hes
        (fun _ _ _ _ htu => Carries.text.over (fun _ _ => nofun) htu _) hreads.level
    · exact entryReads_mergeEntries rfl rfl hu.increasing hes
        (fun _ _ _ _ htu => Carries.bool.over (fun _ _ => nofun) htu _) hreads.audit
  | text s => exact absurd rfl (hnot s)
  | date s => exact absurd rfl (hnot s)
  | _ => cases h

/-- **One file, read twice.** What it is read to by the types of the fields, it
is read to over the defaults, unless a date is in the way. -/
theorem settingsReads_mergeEntries {layer : Layer} (hes : List.Forall₂ (Keyed Tree.Alike) es layer)
    (ho : (Tree.table es).Ordered) (hlayer : (Tree.table layer).Ordered) (hundated : layer.Undated)
    {c : Settings} (h : Format.SettingsReads Toml.format es c) :
    Format.SettingsReads format (Tree.mergeEntries Stack.defaults.entries layer) c where
  locked := entryReads_mergeEntries rfl rfl hlayer.increasing hes
    (fun _ _ _ _ htu => Carries.names.over (fun _ _ => nofun) htu _) h.locked
  logging := entryReads_mergeEntries rfl rfl hlayer.increasing hes
    (fun t u ht hu htu hl => by
      refine readLogging_merge htu (ho.find ht) (hlayer.find hu) ?_ hl
      rintro s rfl
      exact hundated.logging s hu) h.logging
  policies := entryReads_mergeEntries rfl rfl hlayer.increasing hes
    (fun t u ht hu htu hm => by
      have hm' := readPolicies_carries htu (hundated.rules u hu) hm
      cases u with
      | table ps =>
        rw [(hlayer.find hu).merge_of_entries_nil rfl]
        exact hm'
      | _ => cases hm') h.policies

/-- Nothing is read over the defaults from a layer with a date in the way. -/
theorem undated_of_settingsReads {layer : Layer} (hlayer : (Tree.table layer).Ordered) {c : Settings}
    (h : Format.SettingsReads format (Tree.mergeEntries Stack.defaults.entries layer) c) :
    layer.Undated := by
  have hfind := Tree.find_mergeEntries hlayer.increasing Stack.defaults.entries
  constructor
  · intro s hs
    have hlogging := h.logging
    rw [EntryReads, hfind, hs] at hlogging
    cases hlogging
  · intro p hp e he s hs
    have hpolicies := h.policies
    rw [EntryReads, hfind, hp] at hpolicies
    cases p with
    | table ps =>
      have ho := hlayer.find hp
      have hmap : format.readMap format.readRule (.table ps) = .ok c.policies := by
        rw [← ho.merge_of_entries_nil (x := .table []) rfl]
        exact hpolicies
      obtain ⟨r, -, hr⟩ := get?_of_readMap ho hmap (NameMap.find_eq_some_of_nodup ho.nodup he)
      rw [hs] at hr
      cases hr
    | _ => cases he

end Layers

/-- Settings are read from the entries of their fields. -/
theorem Format.SettingsReads.of_find {ν : Type} {F : Format ν} {es fs : List (String × ν)} {c : Settings}
    (hfind : ∀ k ∈ Settings.fieldNames, NameMap.find k es = NameMap.find k fs)
    (h : SettingsReads F es c) : SettingsReads F fs c where
  locked := by
    rw [EntryReads, ← hfind "locked" (by decide)]
    exact h.locked
  logging := by
    rw [EntryReads, ← hfind "logging" (by decide)]
    exact h.logging
  policies := by
    rw [EntryReads, ← hfind "policies" (by decide)]
    exact h.policies

/-! ## The only source -/

namespace Stack

/-- The file is all that settings are loaded from: there is no other, and no
variable whose name has a key. -/
structure Only (s : Stack) (content : Bytes) : Prop where
  user : s.user = none
  project : s.project = some content
  personal : s.personal = none
  explicit : s.explicit = none
  environment : ∀ v ∈ s.environment, Variables.key? s.marker v.1 = none

variable {s : Stack} {content : Bytes}

/-- Variables without a key do not count. -/
theorem Only.load_alone (h : s.Only content) :
    s.load = load { project := some content, marker := s.marker, orders := s.orders, room := s.room } := by
  have hnone : s.environment.filter (fun v => (Variables.key? s.marker v.1).isSome) = [] :=
    List.filter_eq_nil_iff.2 fun v hv => by simp [h.environment v hv]
  rw [← @load_filter s (fun name => (Variables.key? s.marker name).isSome) (by simp), hnone, h.user,
    h.project, h.personal, h.explicit]

/-- The settings are taken from the file over the defaults, if it can be taken. -/
theorem Only.load_eq (h : s.Only content) :
    s.load = taken s.room s.orders.project (Layer.ofFile? content) >>= fun layer =>
      settings (Layer.mergeOver defaults layer) := by
  rw [h.load_alone, load_eq_mergers, listLayer_nil rfl, singleLayer_nil rfl]
  simp only [userLayer, fileLayer, personalLayer, namedLayer, explicitLayer, taken_nil, projectLayer]
  cases taken s.room s.orders.project (Layer.ofFile? content) with
  | error e => rfl
  | ok layer => rfl

/-- The settings from a layer without paths into fields are what its entries say
over the defaults, in whatever order they come. -/
theorem settings_mergeOver_iff {layer : Layer} (hlayer : (Tree.table layer).Ordered)
    (hdirect : layer.Direct) (order : List String) {c : Settings} :
    settings (Layer.mergeOver defaults (arrange (·.1) order layer)) = .ok c ↔
      Format.SettingsReads Layers.format (Tree.mergeEntries defaults.entries layer) c := by
  obtain ⟨hordered, es, hes⟩ := Layer.mergeOver_isOrderedTable (arrange (·.1) order layer)
    (fun e he => hlayer.entries e (mem_arrange.1 he)) ⟨defaults_ordered, _, rfl⟩
  have hfind : ∀ k ∈ Settings.fieldNames,
      NameMap.find k es = NameMap.find k (Tree.mergeEntries defaults.entries layer) := by
    intro k hk
    rw [← Layer.find_mergeOver hk hdirect (t := defaults) rfl,
      ← Layer.find_mergeOver_arrange hk hdirect hlayer.nodup order, hes]
    rfl
  rw [hes] at hordered ⊢
  rw [settings_eq_ok_iff, Layers.readSettings_table_iff hordered]
  exact ⟨.of_find hfind, .of_find fun k hk => (hfind k hk).symm⟩

/-- What the text of a file is read to by the types of the fields, the layer of
the file is read to over the defaults, unless a date is in the way. -/
theorem settingsReads_of_readSettings? {text : String} {c : Settings} {layer : Layer}
    (htext : Text.ofBytes? content = some text) (hc : Toml.readSettings? text = some c)
    (hlayer : Layer.ofFile? content = some layer) (hundated : layer.Undated) :
    Format.SettingsReads Layers.format (Tree.mergeEntries defaults.entries layer) c := by
  obtain ⟨t, ht, hc⟩ := Option.bind_eq_some_iff.1 hc
  have hread : Toml.format.readSettings t = .ok c := by
    split at hc
    · rename_i hread
      cases hc
      exact hread
    · cases hc
  have hordered : t.Ordered :=
    Toml.ofText?_ordered (fun x => .branch [Toml.datetimeKey] (.text x.text)) ht
  cases Layer.alike_of_ofFile? htext ht hlayer with
  | table hes =>
    refine Layers.settingsReads_mergeEntries hes hordered (Layer.ofFile?_ordered hlayer) hundated ?_
    exact (Format.readSettings_eq_ok_iff (fun _ => rfl) rfl hordered.nodup).1 hread

/-- A file that can be read by the types of the fields holds text. -/
theorem exists_of_ofFile {t : FileTree} {here : Place} {path : String} {c : Settings}
    (hc : Settings.ofFile t here path = .ok c) (hcontent : t.read here path = .ok content) :
    ∃ text, Text.ofBytes? content = some text ∧ Toml.readSettings? text = some c := by
  obtain ⟨text, htext, hc⟩ := Except.bind_eq_ok.1 hc
  refine ⟨text, ?_, ?_⟩
  · obtain ⟨bytes, hbytes, htext⟩ := Except.bind_eq_ok.1 (Except.mapError_eq_ok.1 htext)
    cases hcontent.symm.trans hbytes
    split at htext
    · rename_i hsome
      cases htext
      exact hsome
    · cases htext
  · split at hc
    · rename_i hsome
      cases hc
      exact hsome
    · cases hc

/-- **One file, read by itself and loaded.** A file that can be read by the
types of the fields, and is all that settings are loaded from, is loaded to the
same settings, in whatever order its entries come. The exceptions are a file that
the reader of layers refuses, a key that asks for a list that there is no room for,
a key that is a path into a field, and a date in the place of the logging
settings or of a rule. -/
theorem load_ofFile {t : FileTree} {here : Place} {path : String} {c : Settings}
    (hc : Settings.ofFile t here path = .ok c) (hcontent : t.read here path = .ok content)
    (hs : s.Only content) :
    (Layer.ofFile? content = none → s.load = .error .badFile) ∧
    ∀ layer, Layer.ofFile? content = some layer →
      (layer.fits s.room = false → s.load = .error .noRoom) ∧
      (layer.fits s.room = true → layer.Direct →
        (layer.Undated → s.load = .ok c) ∧ (¬ layer.Undated → s.load = .error .badSettings)) := by
  obtain ⟨text, htext, hc⟩ : ∃ text, Text.ofBytes? content = some text ∧
      Toml.readSettings? text = some c := exists_of_ofFile hc hcontent
  refine ⟨fun hnone => ?_, fun layer hlayer => ⟨fun hroom => ?_, fun hfits hdirect => ?_⟩⟩
  · rw [hs.load_eq, hnone]
    rfl
  · rw [hs.load_eq, hlayer, taken, hroom]
    rfl
  have hordered := Layer.ofFile?_ordered hlayer
  rw [hs.load_eq, hlayer, taken, if_pos hfits]
  show (_ → settings (Layer.mergeOver defaults (arrange _ _ layer)) = _) ∧
    (_ → settings (Layer.mergeOver defaults (arrange _ _ layer)) = _)
  refine ⟨fun hundated => ?_, fun hdated => ?_⟩
  · rw [settings_mergeOver_iff hordered hdirect]
    exact settingsReads_of_readSettings? htext hc hlayer hundated
  · cases hload : settings (Layer.mergeOver defaults (arrange _ s.orders.project layer)) with
    | error e => rw [settings_eq_error hload]
    | ok c' =>
      rw [settings_mergeOver_iff hordered hdirect] at hload
      exact absurd (Layers.undated_of_settingsReads hordered hload) hdated

/-- A project of one file. -/
def onDisk (text : String) : FileTree where
  entries := [(["warden.toml"], .file (Text.toBytes text))]

/-- The file of the project as the only layer. -/
def alone (text : String) : Stack := { project := some (Text.toBytes text) }

theorem alone_only (text : String) : (alone text).Only (Text.toBytes text) :=
  ⟨rfl, rfl, rfl, rfl, by simp [alone]⟩

/-- A file with keys that are no fields, one of them a path, and with a record
that is a list. -/
def untidy : String :=
  "'a.b' = 1979-05-27\nlogging = ['debug']\npolicies.'x.y' = \x7bnotes = 1\x7d"

/-- The layer that it makes up. -/
def untidyLayer : Layer := [("a.b", .text "1979-05-27"), ("logging", .list [.text "debug"]),
  ("policies", .table [("x.y", .table [("notes", .integer 1)])])]

/-- What it says. -/
def untidySettings : Settings where
  logging := { level := "debug" }
  policies := .ofList [("x.y", {})]

theorem load_untidy : Settings.ofFile (onDisk untidy) [] "warden.toml" = .ok untidySettings ∧
    (alone untidy).load = .ok untidySettings := by
  have hc : Settings.ofFile (onDisk untidy) [] "warden.toml" = .ok untidySettings := by
    decide +kernel
  have hcontent : (onDisk untidy).read [] "warden.toml" = .ok (Text.toBytes untidy) := by
    decide +kernel
  have hlayer : Layer.ofFile? (Text.toBytes untidy) = some untidyLayer := by
    have htext : Layer.textOf (Text.toBytes untidy) = untidy := by decide +kernel
    have htree : Toml.ofText? Layer.dialect untidy = some (.table untidyLayer) := by
      decide +kernel
    rw [Layer.ofFile?, htext, htree]
    rfl
  have hdirect : untidyLayer.Direct := by
    rw [Layer.Direct]
    decide +kernel
  have hundated : untidyLayer.Undated := by
    constructor
    · intro s hs
      cases hs
    · intro p hp e he s hs
      cases hp
      cases List.mem_singleton.1 he
      cases hs
  have h := load_ofFile hc hcontent (alone_only untidy)
  exact ⟨hc, ((h.2 untidyLayer hlayer).2 (by decide +kernel) hdirect).1 hundated⟩

/-- A key that is a path into a field. -/
def spelled : String := "'logging.level' = 'debug'"

/-- A key that asks for a list of more elements than there can be. -/
def endless : String := "'x[9223372036854775807]' = 1"

/-- A number that layers cannot hold. -/
def huge : String := "x = 99999999999999999999"

/-- A table that dotted keys lead through, and then a header of its own. -/
def reopened : String := "[policies.a.x]\n[policies]\na.c.d = 1\n[policies.a]\n"

/-- A date in the place of a rule. -/
def dated : String := "policies.ops = 1979-05-27"

/-- Each exception is one: these files can be read by themselves, but are loaded
to something else or not at all. -/
theorem load_spelled :
    (Settings.ofFile (onDisk spelled) [] "warden.toml" = .ok {} ∧
      (alone spelled).load = .ok { logging := { level := "debug" } }) ∧
    (Settings.ofFile (onDisk endless) [] "warden.toml" = .ok {} ∧
      (alone endless).load = .error .noRoom) ∧
    (Settings.ofFile (onDisk huge) [] "warden.toml" = .ok {} ∧ (alone huge).load = .error .badFile) ∧
    (Settings.ofFile (onDisk reopened) [] "warden.toml" = .ok { policies := .ofList [("a", {})] } ∧
      (alone reopened).load = .error .badFile) ∧
    (Settings.ofFile (onDisk dated) [] "warden.toml" = .ok { policies := .ofList [("ops", {})] } ∧
      (alone dated).load = .error .badSettings) := by
  refine ⟨⟨?_, ?_⟩, ⟨?_, ?_⟩, ⟨?_, ?_⟩, ⟨?_, ?_⟩, ⟨?_, ?_⟩⟩ <;> decide +kernel

end Stack

end AccessPolicy
