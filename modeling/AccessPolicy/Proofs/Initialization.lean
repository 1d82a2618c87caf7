/-
How starting a project ends. There are six ways (`Ends`), and each start takes
one of them (`init_ends`); what a start does to the files is read off these.

A start that succeeds sees to the list of ignored files. It keeps a list that is
text and can be read (`run_init_list`); a list that is no text is lost
(`run_init_garbled`). A start that fails leaves the files as they were, unless the
settings are in place, or the first bytes of them, when it does: the project then
counts as started (`run_init_failed`).
-/
import AccessPolicy.Proofs.FileTrees
import AccessPolicy.Proofs.IgnoreList
import AccessPolicy.Proofs.Runs

namespace AccessPolicy.Command

open FileTree (GainsFolders)

variable {t t₁ t' : FileTree} {here folder p : Place} {path name : String}

/-! ## The files of a project -/

theorem isName_projectName : FileTree.IsName Locations.projectName := by
  constructor <;> decide

theorem isName_ignoreName : FileTree.IsName ignoreName := by
  constructor <;> decide

theorem append_ignoreName_ne (folder : Place) :
    folder ++ [ignoreName] ≠ folder ++ [Locations.projectName] := by
  have hne : ignoreName ≠ Locations.projectName := by decide
  simpa using hne

theorem locate_of_leads (hname : FileTree.IsName name)
    (hvalid : FileTree.checkPath (Path.join path name) = .ok ()) (hleads : t.LeadsTo here path folder) :
    t.locate here (Path.join path name) = .ok (folder ++ [name]) :=
  (FileTree.locate_join hname).2 ⟨hvalid, folder, hleads, rfl⟩

/-- A project counts as started as soon as there is a file for its settings. -/
theorem contains_of_leads (hvalid : FileTree.checkPath (Locations.projectFile path) = .ok ())
    (hleads : t.LeadsTo here path folder)
    (hthere : (t.at? (folder ++ [Locations.projectName])).isSome = true) :
    t.contains here (Locations.projectFile path) = true :=
  FileTree.contains_eq_true_iff.2 ⟨_, locate_of_leads isName_projectName hvalid hleads, hthere⟩

/-- A start gets to writing the settings: the project has none, its folder can be
made, and the system takes their path. -/
structure Reaches (t : FileTree) (here : Place) (path : String) (t₁ : FileTree) (folder : Place) :
    Prop where
  new : t.contains here (Locations.projectFile path) = false
  made : t.makeFolders here path = (t₁, true)
  leads : t₁.LeadsTo here path folder
  valid : FileTree.checkPath (Locations.projectFile path) = .ok ()

/-- The settings of a project can be written. -/
structure TakesSettings (t : FileTree) (here : Place) (path : String) (t₁ : FileTree)
    (folder : Place) : Prop extends Reaches t here path t₁ folder where
  takes : t₁.Takes (folder ++ [Locations.projectName]) (Text.toBytes starter)

/-- The tree once something is in the place of the settings in a folder. -/
def withSettings (t : FileTree) (folder : Place) (content : Bytes) : FileTree :=
  t.put (folder ++ [Locations.projectName]) (.file content)

theorem at?_withSettings (t : FileTree) (folder : Place) (content : Bytes) (q : Place) :
    (withSettings t folder content).at? q =
      if q = folder ++ [Locations.projectName] then some (.file content) else t.at? q :=
  FileTree.at?_put t (by simp) _ q

theorem at?_withSettings_list (t : FileTree) (folder : Place) (content : Bytes) :
    (withSettings t folder content).at? (folder ++ [ignoreName]) = t.at? (folder ++ [ignoreName]) := by
  rw [at?_withSettings, if_neg (append_ignoreName_ne folder)]

/-- The tree once the settings to start with are in a folder. -/
def withStarter (t : FileTree) (folder : Place) : FileTree :=
  withSettings t folder (Text.toBytes starter)

namespace Reaches

variable (h : Reaches t here path t₁ folder)

include h

theorem gainsFolders : GainsFolders t t₁ := by
  have hgains := FileTree.gainsFolders_makeFolders t here path
  rw [h.made] at hgains
  exact hgains

theorem hindrance : t₁.hindrance = t.hindrance := by
  have hsame := FileTree.hindrance_makeFolders t here path
  rw [h.made] at hsame
  exact hsame

theorem write_settings (content : Bytes) :
    t₁.write here (Locations.projectFile path) content =
      t₁.writeAt (folder ++ [Locations.projectName]) content :=
  FileTree.write_of_locate (locate_of_leads isName_projectName h.valid h.leads)

theorem leads_withSettings (hfree : t₁.at? (folder ++ [Locations.projectName]) ≠ some .folder)
    (content : Bytes) : (withSettings t₁ folder content).LeadsTo here path folder :=
  h.leads.of_keepsFolders (FileTree.keepsFolders_put (by simp) hfree content)

/-- Starts of one project in one tree reach the same place. -/
theorem unique {t₂ : FileTree} {folder' : Place} (h' : Reaches t here path t₂ folder') :
    t₂ = t₁ ∧ folder' = folder := by
  obtain ⟨rfl, -⟩ := Prod.mk.inj (h'.made.symm.trans h.made)
  exact ⟨rfl, h.leads.unique h'.leads⟩

end Reaches

namespace TakesSettings

variable (h : TakesSettings t here path t₁ folder)

include h

theorem leads_withStarter : (withStarter t₁ folder).LeadsTo here path folder :=
  h.leads_withSettings h.takes.1 _

theorem locate_list :
    (withStarter t₁ folder).locate here (Path.join path ignoreName) =
      .ok (folder ++ [ignoreName]) :=
  locate_of_leads isName_ignoreName
    (FileTree.checkPath_join isName_ignoreName (by decide) h.valid) h.leads_withStarter

end TakesSettings

/-! ## The list of ignored files -/

/-- What is in the file at a place, where nothing counts as empty. -/
def HoldsList (t : FileTree) (p : Place) (list : Bytes) : Prop :=
  t.at? p = some (.file list) ∨ (t.at? p = none ∧ list = [])

/-- What reading the list at a place finds. One that cannot be read counts as empty. -/
def foundList (t : FileTree) (p : Place) : Bytes :=
  match t.readAt p with
  | .ok list => list
  | .error _ => []

/-- The list at a place names the personal settings, or it can be brought up to date. -/
def Listable (t : FileTree) (p : Place) : Prop :=
  Lists (foundList t p) ∨ t.Takes p (updated (foundList t p))

theorem not_lists_nil : ¬ Lists [] := by
  have hignored : ¬ isIgnored (readList []) = true := by decide
  exact mt isIgnored_readList_iff.2 hignored

theorem at?_of_lists (h : Lists (foundList t p)) : t.at? p = some (.file (foundList t p)) := by
  unfold foundList at h ⊢
  cases hread : t.readAt p with
  | error e =>
    rw [hread] at h
    exact absurd h not_lists_nil
  | ok list =>
    unfold FileTree.readAt at hread
    split at hread
    · cases hread
    · split at hread
      · rename_i hat
        cases hread
        exact hat
      · cases hread
      · cases hread

theorem Listable.ne_folder (h : Listable t p) : t.at? p ≠ some .folder := by
  rcases h with hlists | htakes
  · rw [at?_of_lists hlists]
    simp
  · exact htakes.1

theorem exists_holdsList (h : t.at? p ≠ some .folder) : ∃ list, HoldsList t p list := by
  cases hat : t.at? p with
  | none => exact ⟨[], .inr ⟨hat, rfl⟩⟩
  | some e =>
    cases e with
    | file list => exact ⟨list, .inl hat⟩
    | folder => exact absurd hat h

theorem HoldsList.of_gainsFolders {list : Bytes} (hgains : GainsFolders t t')
    (h : HoldsList t' p list) : HoldsList t p list := by
  unfold HoldsList at h ⊢
  rcases hgains p with heq | ⟨-, hfolder⟩
  · rw [← heq]
    exact h
  · rw [hfolder] at h
    simp at h

/-- A list that nothing keeps from being read is found. -/
theorem HoldsList.foundList_eq {list : Bytes} (h : HoldsList t p list)
    (hread : (t.hindrance p).read = none) : foundList t p = list := by
  unfold foundList FileTree.readAt
  rw [hread]
  rcases h with hfile | ⟨hnone, hempty⟩
  · rw [hfile]
  · rw [hnone, hempty]

theorem foundList_of_hindrance (hread : (t.hindrance p).read ≠ none) : foundList t p = [] := by
  obtain ⟨cause, hcause⟩ := Option.ne_none_iff_exists'.1 hread
  unfold foundList FileTree.readAt
  rw [hcause]

/-- What is found is read as text, and counts as empty if that fails. -/
theorem readText_list {file : String} (hlocate : t.locate here file = .ok p) :
    (t.readText here file).toOption.getD "" = readList (foundList t p) := by
  have hempty : readList [] = "" := by decide
  rw [FileTree.readText_eq hlocate, foundList]
  cases t.readAt p with
  | error e => exact hempty.symm
  | ok list =>
    dsimp only [bind, Except.bind]
    rw [readList]
    cases Text.ofBytes? list <;> rfl

/-- What is reported if the list cannot be written. -/
def notIgnored : Report := { out := [wroteLine], error := some (.notWritten ignoreName) }

/-- What is left of a tree when a list that does not name the personal settings
cannot be written anew: the tree as it was, or the first bytes of the list. -/
inductive LosesList (t : FileTree) (p : Place) : FileTree → Prop where
  | refused (hlists : ¬ Lists (foundList t p)) (hrefuses : t.Refuses p) : LosesList t p t
  | cutShort {room : Nat} (hlists : ¬ Lists (foundList t p))
      (hcut : t.CutsShort p (updated (foundList t p)) room) :
      LosesList t p (t.put p (.file ((updated (foundList t p)).take room)))

theorem LosesList.not_listable (h : LosesList t p t') : ¬ Listable t p := by
  rintro (hlists' | htakes)
  · cases h with
    | refused hlists => exact hlists hlists'
    | cutShort hlists => exact hlists hlists'
  · cases h with
    | refused _ hrefuses => exact htakes.not_refuses hrefuses
    | cutShort _ hcut => exact htakes.not_cutsShort hcut

/-- A list that cannot be written takes no folder away, and nothing of other files. -/
theorem LosesList.at?_or (h : LosesList t p t') (hp : p ≠ []) :
    FileTree.KeepsFolders t t' ∧ ∀ q, q ≠ p → t'.at? q = t.at? q := by
  cases h with
  | refused => exact ⟨fun _ hfolder => hfolder, fun _ _ => rfl⟩
  | cutShort _ hcut =>
    refine ⟨FileTree.keepsFolders_put hp hcut.1 _, fun q hq => ?_⟩
    rw [FileTree.at?_put t hp, if_neg hq]

/-- **What seeing to the list may come to.** -/
theorem ignorePersonal_cases (hlocate : t.locate here (Path.join path ignoreName) = .ok p)
    (hp : p ≠ []) :
    (Listable t p ∧ (ignorePersonal t here path).2.error = none ∧
      ∀ q, (ignorePersonal t here path).1.at? q =
        if q = p then some (.file (updated (foundList t p))) else t.at? q) ∨
    ∃ t', LosesList t p t' ∧ ignorePersonal t here path = (t', notIgnored) := by
  unfold ignorePersonal
  dsimp only
  rw [readText_list hlocate]
  by_cases hlists : Lists (foundList t p)
  · rw [if_pos (isIgnored_readList_iff.2 hlists)]
    refine .inl ⟨.inl hlists, rfl, ?_⟩
    intro q
    by_cases hq : q = p
    · rw [if_pos hq, hq, at?_of_lists hlists, updated_of_lists hlists]
    · rw [if_neg hq]
  rw [if_neg (mt isIgnored_readList_iff.1 hlists), ← updated_of_not_lists hlists,
    FileTree.write_of_locate hlocate]
  rcases FileTree.write_cases t p (updated (foundList t p)) with
    ⟨htakes, hwrite⟩ | ⟨hrefuses, e, hwrite⟩ | ⟨room, e, hcut, hwrite⟩
  · rw [hwrite]
    exact .inl ⟨.inr htakes, rfl, fun q => FileTree.at?_put t hp _ q⟩
  · rw [hwrite]
    exact .inr ⟨_, .refused hlists hrefuses, rfl⟩
  · rw [hwrite]
    exact .inr ⟨_, .cutShort hlists hcut, rfl⟩

/-! ## How a start ends -/

/-- How starting a project may end: with which tree, and with which report. -/
inductive Ends (t : FileTree) (here : Place) (path : String) : FileTree → Report → Prop where
  /-- The project has been started before. -/
  | initialized (hold : t.contains here (Locations.projectFile path) = true) :
      Ends t here path t { error := some (.initialized path) }
  /-- There is no folder for the project. -/
  | noFolder {t' : FileTree} (hgains : GainsFolders t t') (hmade : (t.makeFolders here path).2 = false) :
      Ends t here path t' { error := some .noFolder }
  /-- The settings cannot be written. -/
  | notWritten {t' : FileTree} (hgains : GainsFolders t t')
      (hnot : ∀ t₁ folder, ¬ TakesSettings t here path t₁ folder) :
      Ends t here path t' { error := some (.notWritten (Locations.projectFile path)) }
  /-- Only the first bytes of the settings can be written. -/
  | cutShort {t₁ : FileTree} {folder : Place} {room : Nat} (hreaches : Reaches t here path t₁ folder)
      (hcut : t₁.CutsShort (folder ++ [Locations.projectName]) (Text.toBytes starter) room) :
      Ends t here path (withSettings t₁ folder ((Text.toBytes starter).take room))
        { error := some (.notWritten (Locations.projectFile path)) }
  /-- The settings are written, and the list of ignored files cannot be. -/
  | notListed {t₁ t' : FileTree} {folder : Place} (htakes : TakesSettings t here path t₁ folder)
      (hlist : LosesList (withStarter t₁ folder) (folder ++ [ignoreName]) t') :
      Ends t here path t' notIgnored
  /-- All is done. -/
  | done {t₁ t' : FileTree} {folder : Place} {report : Report}
      (htakes : TakesSettings t here path t₁ folder)
      (hlistable : Listable (withStarter t₁ folder) (folder ++ [ignoreName]))
      (hfiles : ∀ q, t'.at? q = if q = folder ++ [ignoreName]
        then some (.file (updated (foundList (withStarter t₁ folder) (folder ++ [ignoreName]))))
        else (withStarter t₁ folder).at? q)
      (herror : report.error = none) : Ends t here path t' report

/-- A start that gets to writing the settings. -/
theorem Reaches.ends (h : Reaches t here path t₁ folder) :
    Ends t here path (init t here path).1 (init t here path).2 := by
  unfold init
  rw [if_neg (by simp [h.new]), h.made]
  dsimp only
  rw [if_neg (by simp), h.write_settings]
  rcases FileTree.write_cases t₁ (folder ++ [Locations.projectName]) (Text.toBytes starter) with
    ⟨htakes, hwrite⟩ | ⟨hrefuses, e, hwrite⟩ | ⟨room, e, hcut, hwrite⟩
  · have htakes : TakesSettings t here path t₁ folder := ⟨h, htakes⟩
    rw [hwrite]
    change Ends t here path (ignorePersonal (withStarter t₁ folder) here path).1
      (ignorePersonal (withStarter t₁ folder) here path).2
    rcases ignorePersonal_cases htakes.locate_list (by simp) with
      ⟨hlistable, herror, hfiles⟩ | ⟨t', hlist, heq⟩
    · exact .done htakes hlistable hfiles herror
    · rw [heq]
      exact .notListed htakes hlist
  · rw [hwrite]
    refine .notWritten h.gainsFolders fun t₂ folder' h' => ?_
    obtain ⟨rfl, rfl⟩ := h.unique h'.toReaches
    exact h'.takes.not_refuses hrefuses
  · rw [hwrite]
    exact .cutShort h hcut

/-- **A start ends in one of these ways.** -/
theorem init_ends (t : FileTree) (here : Place) (path : String) :
    Ends t here path (init t here path).1 (init t here path).2 := by
  by_cases hold : t.contains here (Locations.projectFile path) = true
  · rw [init, if_pos hold]
    exact .initialized hold
  have hgains := FileTree.gainsFolders_makeFolders t here path
  cases hmade : (t.makeFolders here path).2 with
  | false =>
    unfold init
    rw [if_neg hold]
    dsimp only
    rw [hmade, if_pos (by rfl)]
    exact .noFolder hgains hmade
  | true =>
    by_cases hvalid : FileTree.checkPath (Locations.projectFile path) = .ok ()
    · obtain ⟨folder, hleads⟩ := FileTree.makeFolders_leadsTo hmade
      exact Reaches.ends ⟨by simpa using hold, Prod.ext rfl hmade, hleads, hvalid⟩
    · obtain ⟨e, hwrite⟩ := FileTree.write_of_not_valid hvalid (t.makeFolders here path).1 here
        (Text.toBytes starter)
      unfold init
      rw [if_neg hold]
      dsimp only
      rw [hmade, if_neg (by simp), hwrite]
      exact .notWritten hgains fun t₂ folder' h => hvalid h.valid

/-! ## Starts that succeed -/

/-- Nothing stands in the way of starting a project. -/
def Startable (t : FileTree) (here : Place) (path : String) : Prop :=
  ∃ t₁ folder, TakesSettings t here path t₁ folder ∧
    Listable (withStarter t₁ folder) (folder ++ [ignoreName])

/-- A project is complete: it has the settings to start with, and a list of
ignored files that names the personal ones. -/
def Completed (t : FileTree) (here : Place) (path : String) : Prop :=
  ∃ folder, t.LeadsTo here path folder ∧
    t.at? (folder ++ [Locations.projectName]) = some (.file (Text.toBytes starter)) ∧
    ∃ list, t.at? (folder ++ [ignoreName]) = some (.file list) ∧ Lists list

/-- **A project can be started exactly if nothing stands in the way.** -/
theorem init_error_eq_none_iff :
    (init t here path).2.error = none ↔ Startable t here path := by
  have hends := init_ends t here path
  generalize init t here path = result at hends ⊢
  obtain ⟨t', report⟩ := result
  dsimp only at hends ⊢
  cases hends with
  | initialized hold =>
    refine iff_of_false (by simp) ?_
    rintro ⟨t₁, folder, htakes, -⟩
    rw [htakes.new] at hold
    cases hold
  | noFolder hgains hmade =>
    refine iff_of_false (by simp) ?_
    rintro ⟨t₁, folder, htakes, -⟩
    rw [htakes.made] at hmade
    cases hmade
  | notWritten hgains hnot =>
    refine iff_of_false (by simp) ?_
    rintro ⟨t₁, folder, htakes, -⟩
    exact hnot t₁ folder htakes
  | cutShort hreaches hcut =>
    refine iff_of_false (by simp) ?_
    rintro ⟨t₂, folder', htakes, -⟩
    obtain ⟨rfl, rfl⟩ := hreaches.unique htakes.toReaches
    exact htakes.takes.not_cutsShort hcut
  | notListed htakes hlist =>
    refine iff_of_false (by simp [notIgnored]) ?_
    rintro ⟨t₂, folder', htakes', hlistable⟩
    obtain ⟨rfl, rfl⟩ := htakes.toReaches.unique htakes'.toReaches
    exact hlist.not_listable hlistable
  | done htakes hlistable hfiles herror => exact iff_of_true herror ⟨_, _, htakes, hlistable⟩

/-- What a start that succeeds leaves behind: the settings and the list, and
otherwise the files as they were, with folders to the project. -/
theorem exists_of_init_error_eq_none (h : (init t here path).2.error = none) :
    ∃ t₁ folder, TakesSettings t here path t₁ folder ∧
      Listable (withStarter t₁ folder) (folder ++ [ignoreName]) ∧
      ∀ q, (init t here path).1.at? q = if q = folder ++ [ignoreName]
        then some (.file (updated (foundList (withStarter t₁ folder) (folder ++ [ignoreName]))))
        else (withStarter t₁ folder).at? q := by
  have hends := init_ends t here path
  generalize init t here path = result at hends h ⊢
  obtain ⟨t', report⟩ := result
  dsimp only at hends h ⊢
  cases hends with
  | initialized => cases h
  | noFolder => cases h
  | notWritten => cases h
  | cutShort => cases h
  | notListed => cases h
  | done htakes hlistable hfiles => exact ⟨_, _, htakes, hlistable, hfiles⟩

theorem leads_of_files {list : Bytes} (htakes : TakesSettings t here path t₁ folder)
    (hlistable : Listable (withStarter t₁ folder) (folder ++ [ignoreName]))
    (hfiles : ∀ q, t'.at? q = if q = folder ++ [ignoreName] then some (.file list)
      else (withStarter t₁ folder).at? q) : t'.LeadsTo here path folder := by
  refine htakes.leads_withStarter.of_keepsFolders ?_
  intro q hq
  rw [hfiles]
  by_cases heq : q = folder ++ [ignoreName]
  · rw [heq] at hq
    exact absurd hq hlistable.ne_folder
  · rw [if_neg heq, hq]

theorem completed_of_init (h : (init t here path).2.error = none) :
    Completed (init t here path).1 here path := by
  obtain ⟨t₁, folder, htakes, hlistable, hfiles⟩ := exists_of_init_error_eq_none h
  have hsettings : (init t here path).1.at? (folder ++ [Locations.projectName]) =
      some (.file (Text.toBytes starter)) := by
    rw [hfiles, if_neg (append_ignoreName_ne folder).symm, withStarter, at?_withSettings, if_pos rfl]
  have hlist := hfiles (folder ++ [ignoreName])
  rw [if_pos rfl] at hlist
  exact ⟨folder, leads_of_files htakes hlistable hfiles, hsettings, _, hlist, lists_updated _⟩

/-! ## Starts that fail -/

/-- What a start that stops halfway leaves: the first bytes of the settings, or the
settings and a list of ignored files that could not be written. They are all that is
new, besides folders. -/
inductive HalfStarted (t : FileTree) (here : Place) (path : String) : FileTree → Prop where
  | cutShort {t₁ : FileTree} {folder : Place} {room : Nat} (hreaches : Reaches t here path t₁ folder)
      (hgains : GainsFolders t t₁)
      (hcut : t₁.CutsShort (folder ++ [Locations.projectName]) (Text.toBytes starter) room) :
      HalfStarted t here path (withSettings t₁ folder ((Text.toBytes starter).take room))
  | notListed {t₁ t' : FileTree} {folder : Place} (htakes : TakesSettings t here path t₁ folder)
      (hgains : GainsFolders t t₁)
      (hlist : LosesList (withStarter t₁ folder) (folder ++ [ignoreName]) t') :
      HalfStarted t here path t'

/-- A start that fails leaves no files behind, unless it stops halfway. -/
theorem init_of_error (h : (init t here path).2.error ≠ none) :
    GainsFolders t (init t here path).1 ∨ HalfStarted t here path (init t here path).1 := by
  have hends := init_ends t here path
  generalize init t here path = result at hends h ⊢
  obtain ⟨t', report⟩ := result
  dsimp only at hends h ⊢
  cases hends with
  | initialized => exact .inl (.refl t)
  | noFolder hgains => exact .inl hgains
  | notWritten hgains => exact .inl hgains
  | cutShort hreaches hcut => exact .inr (.cutShort hreaches hreaches.gainsFolders hcut)
  | notListed htakes hlist => exact .inr (.notListed htakes htakes.gainsFolders hlist)
  | done _ _ _ herror => exact absurd herror h

/-- A project that has been started halfway counts as started. -/
theorem HalfStarted.init_again (h : HalfStarted t here path t') :
    init t' here path = (t', { error := some (.initialized path) }) := by
  have hsettings : ∀ (t : FileTree) (folder : Place) (content : Bytes),
      ((withSettings t folder content).at? (folder ++ [Locations.projectName])).isSome = true := by
    intro t folder content
    rw [at?_withSettings, if_pos rfl]
    rfl
  have hcontains : t'.contains here (Locations.projectFile path) = true := by
    cases h with
    | cutShort hreaches _ hcut =>
      exact contains_of_leads hreaches.valid (hreaches.leads_withSettings hcut.1 _) (hsettings ..)
    | notListed htakes _ hlist =>
      obtain ⟨hkeeps, hsame⟩ := hlist.at?_or (by simp)
      refine contains_of_leads htakes.valid (htakes.leads_withStarter.of_keepsFolders hkeeps) ?_
      rw [hsame _ (append_ignoreName_ne _).symm]
      exact hsettings ..
  rw [init, if_pos hcontains]

/-! ## Runs -/

namespace Invocation

variable {i : Invocation} {s : Surroundings}

theorem run_of_init (haction : i.action = .init path) (t : FileTree) (s : Surroundings) :
    ((i.stack t s).load ≠ .error .noRoom → (i.run t s).files = (init t s.here path).1) ∧
      ((i.run t s).code = 0 ↔
        (i.stack t s).load ≠ .error .noRoom ∧ (init t s.here path).2.error = none) := by
  have hperform : i.perform t s = init t s.here path := by
    rw [perform, haction]
  refine ⟨fun hload => ?_, hperform ▸ code_eq_zero_iff⟩
  rw [run_of_room hload, ← hperform]
  rfl

theorem err_of_init {e : CommandError} (haction : i.action = .init path)
    (hload : (i.stack t s).load ≠ .error .noRoom)
    (herror : (init t s.here path).2.error = some e) :
    "Error: " ++ e.message ∈ (i.run t s).err := by
  rw [run_of_room hload]
  unfold runLoaded perform
  rw [haction]
  dsimp only
  rw [herror]
  simp

/-- **What a start does to the list of ignored files.** If it succeeds, the list
in the folder of the project has been brought up to date, and a list that is
text, or is not there yet, is kept: it has no more than a line for the personal
settings added to it, if it had none. A list that is no text is replaced by that
line, and so is one that can be written and not read. -/
theorem run_init_list (i : Invocation) (path : String) (haction : i.action = .init path)
    (t : FileTree) (s : Surroundings) (hcode : (i.run t s).code = 0) :
    ∃ folder list, (i.run t s).files.LeadsTo s.here path folder ∧
      HoldsList t (folder ++ [ignoreName]) list ∧
      ((t.hindrance (folder ++ [ignoreName])).read = none →
        (i.run t s).files.at? (folder ++ [ignoreName]) = some (.file (updated list))) ∧
      ((t.hindrance (folder ++ [ignoreName])).read ≠ none →
        (i.run t s).files.at? (folder ++ [ignoreName]) =
          some (.file (Text.toBytes ignoreEntry))) ∧
      ((Text.ofBytes? list).isSome = true → Keeps list (updated list)) ∧
      (Text.ofBytes? list = none → updated list = Text.toBytes ignoreEntry) := by
  obtain ⟨hrun, herror⟩ := run_of_init haction t s
  obtain ⟨hload, herror⟩ := herror.1 hcode
  obtain ⟨t₁, folder, htakes, hlistable, hfiles⟩ := exists_of_init_error_eq_none herror
  have hfree : t₁.at? (folder ++ [ignoreName]) ≠ some .folder := by
    rw [← at?_withSettings_list]
    exact hlistable.ne_folder
  obtain ⟨list, hlist⟩ := exists_holdsList hfree
  have hlist' : HoldsList (withStarter t₁ folder) (folder ++ [ignoreName]) list := by
    rw [HoldsList, withStarter, at?_withSettings_list]
    exact hlist
  have hhindrance : (withStarter t₁ folder).hindrance (folder ++ [ignoreName]) =
      t.hindrance (folder ++ [ignoreName]) := congrFun htakes.hindrance _
  rw [hrun hload]
  refine ⟨folder, list, leads_of_files htakes hlistable hfiles,
    hlist.of_gainsFolders htakes.gainsFolders, ?_, ?_, ?_, updated_of_no_text⟩
  · intro hread
    rw [hfiles, if_pos rfl, hlist'.foundList_eq (hhindrance ▸ hread)]
  · intro hread
    have hempty : updated [] = Text.toBytes ignoreEntry := by decide
    rw [hfiles, if_pos rfl, foundList_of_hindrance (hhindrance ▸ hread), hempty]
  · intro htext
    obtain ⟨text, htext⟩ := Option.isSome_iff_exists.1 htext
    exact keeps_updated htext

/-- The start of a project in the folder that paths start from. -/
def initHere : Invocation where
  action := .init "."

/-- Paths start from the root. -/
def atRoot : Surroundings where
  here := []

/-- A folder with a list of ignored files whose last line has no end. -/
def listed : FileTree where
  entries := [([ignoreName], .file (Text.toBytes "target
*.log"))]

theorem run_init_listed :
    (initHere.action = .init "." ∧ (initHere.run listed atRoot).code = 0) ∧
    ∃ folder list, (initHere.run listed atRoot).files.LeadsTo [] "." folder ∧
      HoldsList listed (folder ++ [ignoreName]) list ∧
      ((listed.hindrance (folder ++ [ignoreName])).read = none →
        (initHere.run listed atRoot).files.at? (folder ++ [ignoreName]) =
          some (.file (updated list))) ∧
      ((listed.hindrance (folder ++ [ignoreName])).read ≠ none →
        (initHere.run listed atRoot).files.at? (folder ++ [ignoreName]) =
          some (.file (Text.toBytes ignoreEntry))) ∧
      ((Text.ofBytes? list).isSome = true → Keeps list (updated list)) ∧
      (Text.ofBytes? list = none → updated list = Text.toBytes ignoreEntry) :=
  ⟨⟨rfl, by decide +kernel⟩, run_init_list initHere "." rfl listed atRoot (by decide +kernel)⟩

/-- A folder with a list of ignored files that is no text. -/
def garbled : FileTree where
  entries := [([ignoreName], .file [0x61, 0xff, 0x0a])]

/-- The list is lost, although the start succeeds. -/
theorem run_init_garbled :
    (initHere.run garbled atRoot).code = 0 ∧
    (initHere.run garbled atRoot).files.at? [ignoreName] = some (.file (Text.toBytes ignoreEntry)) ∧
    ¬ [0x61, 0xff, 0x0a] <+: Text.toBytes ignoreEntry := by
  refine ⟨?_, ?_, ?_⟩ <;> decide +kernel

/-- **What a start that fails leaves behind.** The files are as they were, and
only folders are new; or the settings could be written in part only, or the list of
ignored files not at all or in part only. Then the project counts as started from
then on, and the next start fails and changes nothing. A start succeeds exactly if
loading the settings comes back and nothing stands in its way, and then the project
is complete. -/
theorem run_init_failed (i : Invocation) (path : String) (haction : i.action = .init path)
    (t : FileTree) (s : Surroundings) (hcode : (i.run t s).code ≠ 0) :
    (GainsFolders t (i.run t s).files ∨
      (HalfStarted t s.here path (i.run t s).files ∧
        (i.run (i.run t s).files s).code ≠ 0 ∧
        (i.run (i.run t s).files s).files = (i.run t s).files ∧
        ((i.stack (i.run t s).files s).load ≠ .error .noRoom →
          "Error: " ++ (CommandError.initialized path).message ∈
            (i.run (i.run t s).files s).err))) ∧
    ∀ t', ((i.run t' s).code = 0 ↔
        (i.stack t' s).load ≠ .error .noRoom ∧ Startable t' s.here path) ∧
      ((i.run t' s).code = 0 → Completed (i.run t' s).files s.here path) := by
  constructor
  · by_cases hload : (i.stack t s).load = .error .noRoom
    · rw [run_of_noRoom hload]
      exact .inl (.refl t)
    obtain ⟨hrun, hzero⟩ := run_of_init haction t s
    rw [hrun hload]
    rcases init_of_error fun herror => hcode (hzero.2 ⟨hload, herror⟩) with hgains | hhalf
    · exact .inl hgains
    · have hagain := hhalf.init_again
      generalize (init t s.here path).1 = t₁ at hhalf hagain ⊢
      obtain ⟨hrun', hzero'⟩ := run_of_init haction t₁ s
      refine .inr ⟨hhalf, ?_, ?_, fun hload' => err_of_init haction hload' (by rw [hagain])⟩
      · rw [ne_eq, hzero', hagain]
        simp
      · by_cases hload' : (i.stack t₁ s).load = .error .noRoom
        · rw [run_of_noRoom hload']
        · rw [hrun' hload', hagain]
  · intro t'
    obtain ⟨hrun', hzero'⟩ := run_of_init haction t' s
    rw [hzero', init_error_eq_none_iff]
    refine ⟨Iff.rfl, fun ⟨hload, hstart⟩ => ?_⟩
    rw [hrun' hload]
    exact completed_of_init (init_error_eq_none_iff.2 hstart)

/-- A folder in which another stands in the place of the list. -/
def blocked : FileTree where
  entries := [([ignoreName], .folder)]

theorem run_init_blocked :
    (initHere.action = .init "." ∧ (initHere.run blocked atRoot).code ≠ 0) ∧
    (GainsFolders blocked (initHere.run blocked atRoot).files ∨
      (HalfStarted blocked [] "." (initHere.run blocked atRoot).files ∧
        (initHere.run (initHere.run blocked atRoot).files atRoot).code ≠ 0 ∧
        (initHere.run (initHere.run blocked atRoot).files atRoot).files =
          (initHere.run blocked atRoot).files ∧
        ((initHere.stack (initHere.run blocked atRoot).files atRoot).load ≠ .error .noRoom →
          "Error: " ++ (CommandError.initialized ".").message ∈
            (initHere.run (initHere.run blocked atRoot).files atRoot).err))) ∧
    ∀ t', ((initHere.run t' atRoot).code = 0 ↔
        (initHere.stack t' atRoot).load ≠ .error .noRoom ∧ Startable t' [] ".") ∧
      ((initHere.run t' atRoot).code = 0 → Completed (initHere.run t' atRoot).files [] ".") :=
  ⟨⟨rfl, by decide +kernel⟩, run_init_failed initHere "." rfl blocked atRoot (by decide +kernel)⟩

theorem load_blocked : (initHere.stack blocked atRoot).load ≠ .error .noRoom := by
  decide +kernel

/-- The settings are new after a start that failed, and the next one fails too. -/
theorem run_init_halfway :
    (initHere.run blocked atRoot).code = 1 ∧
    blocked.at? [Locations.projectName] = none ∧
    (initHere.run blocked atRoot).files.at? [Locations.projectName] =
      some (.file (Text.toBytes starter)) ∧
    (initHere.run (initHere.run blocked atRoot).files atRoot).code ≠ 0 := by
  refine ⟨by decide +kernel, rfl, ?_, ?_⟩
  · rw [run_of_room load_blocked]
    rfl
  · rw [ne_eq, code_eq_zero_iff, run_of_room load_blocked]
    rintro ⟨-, hdone⟩
    revert hdone
    decide +kernel

end Invocation

end AccessPolicy.Command
