/-
Trees of files and folders under the operations of a program: where paths lead,
and what is changed.

A file is written as a whole, or not at all, or its first bytes are; which of the
three is a matter of the place (`write_cases`).

A path that leads somewhere still does so when folders are added
(`walk_of_keepsFolders`). The path of a name in a folder leads into that folder,
however the path of the folder is written (`locate_join`). Making folders adds
folders where nothing was, and nothing else, whether it succeeds or not; if it
does, the path leads to a folder (`makeFolders_leadsTo`).
-/
import AccessPolicy.Files.Tree
import AccessPolicy.Proofs.DottedPaths
import AccessPolicy.Proofs.Records
import Mathlib.Data.List.TakeWhile

namespace AccessPolicy.FileTree

variable {t t' t'' : FileTree} {here p q : Place} {path name : String} {names : List String}

/-! ## Changes -/

/-- The folders of a tree are folders in another. -/
def KeepsFolders (t t' : FileTree) : Prop := ∀ p, t.at? p = some .folder → t'.at? p = some .folder

/-- There are no more than folders where nothing was, and all else is as it was. -/
def GainsFolders (t t' : FileTree) : Prop :=
  ∀ p, t'.at? p = t.at? p ∨ (t.at? p = none ∧ t'.at? p = some .folder)

theorem GainsFolders.refl (t : FileTree) : GainsFolders t t := fun _ => .inl rfl

theorem GainsFolders.trans (h : GainsFolders t t') (h' : GainsFolders t' t'') :
    GainsFolders t t'' := by
  intro p
  rcases h' p with heq' | ⟨hnone, hfolder⟩
  · rw [heq']
    exact h p
  · rcases h p with heq | ⟨-, hfolder'⟩
    · exact .inr ⟨heq ▸ hnone, hfolder⟩
    · rw [hnone] at hfolder'
      cases hfolder'

theorem GainsFolders.put (hp : p ≠ []) (hnone : t.at? p = none) :
    GainsFolders t (t.put p .folder) := by
  intro q
  rw [at?_put t hp]
  by_cases hq : q = p
  · rw [if_pos hq, hq]
    exact .inr ⟨hnone, rfl⟩
  · rw [if_neg hq]
    exact .inl rfl

theorem GainsFolders.keepsFolders (h : GainsFolders t t') : KeepsFolders t t' := by
  intro p hfolder
  rcases h p with heq | ⟨-, hfolder'⟩
  · rw [heq, hfolder]
  · exact hfolder'

/-- Writing a file where no folder is leaves all folders. -/
theorem keepsFolders_put (hp : p ≠ []) (hfolder : t.at? p ≠ some .folder) (content : Bytes) :
    KeepsFolders t (t.put p (.file content)) := by
  intro q hq
  rw [at?_put t hp]
  by_cases heq : q = p
  · rw [heq] at hq
    exact absurd hq hfolder
  · rw [if_neg heq, hq]

/-! ## Walks -/

theorem walk_append (t : FileTree) (here : Place) (names names' : List String) :
    t.walk here (names ++ names') = (t.walk here names >>= fun p => t.walk p names') := by
  induction names generalizing here with
  | nil => rfl
  | cons name names ih =>
    rw [List.cons_append, walk, walk]
    cases t.at? here with
    | none => rfl
    | some e =>
      cases e with
      | file content => rfl
      | folder =>
        dsimp only
        rw [ih, ih, ih]
        split
        · rfl
        split
        · rfl
        split <;> rfl

theorem walk_of_keepsFolders (hkeeps : KeepsFolders t t') (h : t.walk here names = .ok p) :
    t'.walk here names = .ok p := by
  induction names generalizing here with
  | nil => exact h
  | cons name names ih =>
    rw [walk] at h ⊢
    cases hat : t.at? here with
    | none =>
      rw [hat] at h
      cases h
    | some e =>
      cases e with
      | file content =>
        rw [hat] at h
        cases h
      | folder =>
        rw [hat] at h
        rw [hkeeps here hat]
        dsimp only at h ⊢
        split at h
        · rename_i hsame
          rw [if_pos hsame]
          exact ih h
        · rename_i hsame
          rw [if_neg hsame]
          split at h
          · rename_i hup
            rw [if_pos hup]
            exact ih h
          · rename_i hup
            rw [if_neg hup]
            split at h
            · cases h
            · rename_i hshort
              rw [if_neg hshort]
              exact ih h

/-- A step that goes nowhere asks only for a folder. -/
theorem walk_same (hname : name = "" ∨ name = ".") :
    t.walk here [name] = .ok p ↔ t.at? here = some .folder ∧ p = here := by
  rw [walk]
  cases t.at? here with
  | none => simp
  | some e =>
    cases e with
    | file content => simp
    | folder =>
      dsimp only
      rw [if_pos hname, walk]
      simp [eq_comm]

theorem walk_replicate_blank (h : t.at? here = some .folder) (n : Nat) :
    t.walk here (List.replicate n "") = .ok here := by
  induction n with
  | zero => rfl
  | succ n ih =>
    rw [List.replicate_succ, walk, h]
    dsimp only
    rw [if_pos (.inl rfl), ih]

/-- The name is one that may be given to a file. -/
structure IsName (name : String) : Prop where
  blank : name ≠ ""
  same : name ≠ "."
  up : name ≠ ".."
  short : name.utf8ByteSize ≤ maxName
  slash : '/' ∉ name.toList
  nul : '\x00' ∉ name.toList

theorem walk_name (hblank : name ≠ "") (hsame : name ≠ ".") (hup : name ≠ "..")
    (hshort : name.utf8ByteSize ≤ maxName) :
    t.walk here [name] = .ok p ↔ t.at? here = some .folder ∧ p = here ++ [name] := by
  rw [walk]
  cases t.at? here with
  | none => simp
  | some e =>
    cases e with
    | file content => simp
    | folder =>
      dsimp only
      rw [if_neg (by simp [hblank, hsame]), if_neg hup, if_neg (Nat.not_lt.2 hshort), walk]
      simp [eq_comm]

/-! ## Paths of names in folders -/

/-- The path leads to a folder. -/
def LeadsTo (t : FileTree) (here : Place) (path : String) (folder : Place) : Prop :=
  t.walk (start here path) (Path.components path) = .ok folder ∧ t.at? folder = some .folder

theorem LeadsTo.of_keepsFolders {folder : Place} (h : t.LeadsTo here path folder)
    (hkeeps : KeepsFolders t t') : t'.LeadsTo here path folder :=
  ⟨walk_of_keepsFolders hkeeps h.1, hkeeps folder h.2⟩

theorem LeadsTo.unique {folder folder' : Place} (h : t.LeadsTo here path folder)
    (h' : t.LeadsTo here path folder') : folder' = folder :=
  Except.ok.inj (h'.1.symm.trans h.1)

theorem components_of_name (h : '/' ∉ name.toList) : Path.components name = [name] := by
  have hsplit : Text.splitAt '/' ("/".intercalate [name]) = [name] :=
    Text.splitAt_intercalate rfl (List.cons_ne_nil name []) (List.forall_mem_singleton.2 h)
  rw [String.intercalate_singleton] at hsplit
  exact hsplit

/-- A path that ends in a slash is another with that slash after it. -/
theorem exists_of_getLast?_slash (h : path.toList.getLast? = some '/') : ∃ before, path = before ++ "/" := by
  obtain ⟨l, hl⟩ := List.getLast?_eq_some_iff.1 h
  refine ⟨String.ofList l, ?_⟩
  rw [← String.ofList_toList (s := path), hl, String.ofList_append]

/-- The path of a name in a folder leads on from where that of the folder does. -/
theorem walk_components_join (hname : IsName name) :
    t.walk here (Path.components (Path.join path name)) = .ok p ↔
      ∃ folder, (t.walk here (Path.components path) = .ok folder ∧ t.at? folder = some .folder) ∧
        p = folder ++ [name] := by
  have hcomponents := components_of_name hname.slash
  have hstep : ∀ {folder : Place}, t.walk folder [name] = .ok p ↔
      t.at? folder = some .folder ∧ p = folder ++ [name] :=
    walk_name hname.blank hname.same hname.up hname.short
  unfold Path.join
  dsimp only
  by_cases hempty : path = ""
  · have hblank : Path.components "" = [""] := by decide
    simp only [hempty, String.toList_empty, List.isEmpty_nil, Bool.true_or, if_true,
      String.empty_append, hcomponents, hblank, hstep, walk_same (.inl rfl)]
    constructor
    · rintro ⟨hfolder, hp⟩
      exact ⟨here, ⟨⟨hfolder, rfl⟩, hfolder⟩, hp⟩
    · rintro ⟨folder, ⟨⟨-, rfl⟩, hfolder⟩, hp⟩
      exact ⟨hfolder, hp⟩
  · have hnonempty : path.toList.isEmpty = false := by simpa using hempty
    by_cases hslash : path.toList.getLast? = some '/'
    · obtain ⟨before, hbefore⟩ := exists_of_getLast?_slash hslash
      have hjoined : Path.components (path ++ name) = Path.components before ++ [name] := by
        rw [hbefore, Path.components, Text.splitAt_append rfl]
        exact congrArg _ hcomponents
      have hpath : Path.components path = Path.components before ++ [""] := by
        rw [hbefore, ← String.append_empty (s := before ++ "/"), Path.components,
          Text.splitAt_append rfl]
        rfl
      simp only [hnonempty, hslash, beq_self_eq_true, Bool.or_true, if_true, hjoined, hpath,
        walk_append, Except.bind_eq_ok, hstep, walk_same (.inl rfl)]
      constructor
      · rintro ⟨folder, hwalk, hfolder, hp⟩
        exact ⟨folder, ⟨⟨folder, hwalk, hfolder, rfl⟩, hfolder⟩, hp⟩
      · rintro ⟨_, ⟨⟨folder, hwalk, -, rfl⟩, hfolder⟩, hp⟩
        exact ⟨_, hwalk, hfolder, hp⟩
    · have hjoined : Path.components (path ++ "/" ++ name) = Path.components path ++ [name] := by
        rw [Path.components, Text.splitAt_append rfl]
        exact congrArg _ hcomponents
      have hnot : (path.toList.getLast? == some '/') = false := by simpa using hslash
      simp only [hnonempty, hnot, Bool.or_self, Bool.false_eq_true, if_false, hjoined, walk_append,
        Except.bind_eq_ok, hstep, and_assoc]

theorem start_join (hname : IsName name) (path : String) :
    start here (Path.join path name) = start here path := by
  have habsolute : Path.isAbsolute (Path.join path name) = Path.isAbsolute path := by
    unfold Path.isAbsolute Path.join
    cases hl : path.toList with
    | nil =>
      cases hn : name.toList with
      | nil => simp [hl, hn]
      | cons c l =>
        have hc : c ≠ '/' := by
          intro hc
          exact hname.slash (by simp [hn, hc])
        simp [hl, hn, hc]
    | cons c l =>
      simp only [List.isEmpty_cons, Bool.false_or]
      split <;> simp [hl]
  rw [start, start, habsolute]

theorem locate_eq_ok_iff : t.locate here path = .ok p ↔
    checkPath path = .ok () ∧ t.walk (start here path) (Path.components path) = .ok p := by
  unfold locate
  rw [Except.bind_eq_ok]
  constructor
  · rintro ⟨_, hcheck, hwalk⟩
    exact ⟨hcheck, hwalk⟩
  · rintro ⟨hcheck, hwalk⟩
    exact ⟨(), hcheck, hwalk⟩

/-- **Where the path of a name in a folder leads.** -/
theorem locate_join (hname : IsName name) :
    t.locate here (Path.join path name) = .ok p ↔
      checkPath (Path.join path name) = .ok () ∧
        ∃ folder, t.LeadsTo here path folder ∧ p = folder ++ [name] := by
  rw [locate_eq_ok_iff, start_join hname, walk_components_join hname]
  rfl

theorem checkPath_eq_ok_iff : checkPath path = .ok () ↔
    '\x00' ∉ path.toList ∧ path.utf8ByteSize ≤ maxPath ∧ path ≠ "" := by
  unfold checkPath
  by_cases hnul : '\x00' ∈ path.toList
  · simp [hnul]
  by_cases hlong : maxPath < path.utf8ByteSize
  · simp [hnul, hlong, Nat.not_le.2 hlong]
  by_cases hempty : path = ""
  · simp [hempty, maxPath]
  · simp [hnul, hlong, hempty, Nat.not_lt.1 hlong]

/-- In one folder, the path of a shorter name is no worse. -/
theorem checkPath_join {longer : String} (hname : IsName name)
    (hle : name.utf8ByteSize ≤ longer.utf8ByteSize)
    (h : checkPath (Path.join path longer) = .ok ()) : checkPath (Path.join path name) = .ok () := by
  obtain ⟨hnul, hsize, -⟩ := checkPath_eq_ok_iff.1 h
  have hnul' := hname.nul
  have hblank := hname.blank
  rw [checkPath_eq_ok_iff]
  unfold Path.join at hnul hsize ⊢
  dsimp only at hnul hsize ⊢
  split at hnul
  · rename_i hslash
    rw [if_pos hslash] at hsize ⊢
    simp only [String.toList_append, List.mem_append, not_or, String.utf8ByteSize_append] at *
    exact ⟨⟨hnul.1, hnul'⟩, by omega, by simp [hblank]⟩
  · rename_i hslash
    rw [if_neg hslash] at hsize ⊢
    simp only [String.toList_append, List.mem_append, not_or, String.utf8ByteSize_append] at *
    exact ⟨⟨hnul.1, hnul'⟩, by omega, by simp [hblank]⟩

/-! ## Files in folders -/

/-- There is no folder at the place, and nothing keeps the content from being written. -/
def Takes (t : FileTree) (p : Place) (content : Bytes) : Prop :=
  t.at? p ≠ some .folder ∧ ∀ failure, (t.hindrance p).write = some failure →
    ∃ room cause, failure = .limited room cause ∧ content.length ≤ room

/-- Nothing can be written at the place. -/
def Refuses (t : FileTree) (p : Place) : Prop :=
  t.at? p = some .folder ∨ ∃ cause, (t.hindrance p).write = some (.refused cause)

/-- Only the first bytes of the content can be written at the place. -/
def CutsShort (t : FileTree) (p : Place) (content : Bytes) (room : Nat) : Prop :=
  t.at? p ≠ some .folder ∧ (∃ cause, (t.hindrance p).write = some (.limited room cause)) ∧
    room < content.length

/-- What writing a file at a place may come to. -/
theorem write_cases (t : FileTree) (p : Place) (content : Bytes) :
    t.Takes p content ∧ t.writeAt p content = (t.put p (.file content), none) ∨
    t.Refuses p ∧ (∃ e, t.writeAt p content = (t, some e)) ∨
    ∃ room e, t.CutsShort p content room ∧
      t.writeAt p content = (t.put p (.file (content.take room)), some e) := by
  unfold writeAt
  by_cases hfolder : t.at? p = some .folder
  · rw [if_pos hfolder]
    exact .inr (.inl ⟨.inl hfolder, _, rfl⟩)
  rw [if_neg hfolder]
  cases hwrite : (t.hindrance p).write with
  | none => exact .inl ⟨⟨hfolder, by simp [hwrite]⟩, rfl⟩
  | some failure =>
    cases failure with
    | refused cause => exact .inr (.inl ⟨.inr ⟨cause, hwrite⟩, cause, rfl⟩)
    | limited room cause =>
      dsimp only
      by_cases hfits : content.length ≤ room
      · rw [if_pos hfits]
        refine .inl ⟨⟨hfolder, fun failure h => ?_⟩, rfl⟩
        rw [hwrite] at h
        cases h
        exact ⟨room, cause, rfl, hfits⟩
      · rw [if_neg hfits]
        exact .inr (.inr ⟨room, cause, ⟨hfolder, ⟨cause, hwrite⟩, Nat.not_le.1 hfits⟩, rfl⟩)

theorem Takes.not_refuses {content : Bytes} (h : t.Takes p content) : ¬ t.Refuses p := by
  rintro (hfolder | ⟨cause, hwrite⟩)
  · exact h.1 hfolder
  · obtain ⟨room, cause', heq, -⟩ := h.2 _ hwrite
    cases heq

theorem Takes.not_cutsShort {content : Bytes} {room : Nat} (h : t.Takes p content) :
    ¬ t.CutsShort p content room := by
  rintro ⟨-, ⟨cause, hwrite⟩, hlong⟩
  obtain ⟨room', cause', heq, hfits⟩ := h.2 _ hwrite
  cases heq
  exact Nat.not_le.2 hlong hfits

theorem write_of_locate {content : Bytes} (h : t.locate here path = .ok p) :
    t.write here path content = t.writeAt p content := by
  rw [write, h]

/-- Nothing is written at a path that the system does not take. -/
theorem write_of_not_valid (h : checkPath path ≠ .ok ()) (t : FileTree) (here : Place)
    (content : Bytes) : ∃ e, t.write here path content = (t, some e) := by
  unfold write
  cases hlocate : t.locate here path with
  | error e => exact ⟨e, rfl⟩
  | ok p => exact absurd (locate_eq_ok_iff.1 hlocate).1 h

theorem contains_eq_true_iff : t.contains here path = true ↔
    ∃ p, t.locate here path = .ok p ∧ (t.at? p).isSome = true := by
  unfold contains entry?
  cases t.locate here path <;> simp

theorem isFolder_eq_true_iff : t.isFolder here path = true ↔
    checkPath path = .ok () ∧ ∃ folder, t.LeadsTo here path folder := by
  have hiff : t.isFolder here path = true ↔
      ∃ p, t.locate here path = .ok p ∧ t.at? p = some .folder := by
    unfold isFolder entry?
    cases t.locate here path <;> simp
  rw [hiff]
  simp only [locate_eq_ok_iff, LeadsTo, and_assoc, exists_and_left]

/-- Reading a file as text. -/
theorem readText_eq (hlocate : t.locate here path = .ok p) :
    t.readText here path = t.readAt p >>= fun content =>
      match Text.ofBytes? content with
      | some s => .ok s
      | none => .error .notText := by
  rw [readText, read, hlocate]
  rfl

/-! ## Making folders -/

/-- The names of a path, without the blank ones at its end. -/
theorem exists_components {above : List String}
    (h : (Path.components path).reverse.dropWhile (· = "") = name :: above) :
    name ≠ "" ∧ ∃ n, Path.components path = above.reverse ++ [name] ++ List.replicate n "" := by
  have hname : name ≠ "" := by
    have hhead := List.head?_dropWhile_not (· = "") (Path.components path).reverse
    rw [h] at hhead
    simpa using hhead
  obtain ⟨blank, hblank, hsplit⟩ : ∃ blank, (∀ x ∈ blank, x = "") ∧
      blank ++ name :: above = (Path.components path).reverse := by
    refine ⟨(Path.components path).reverse.takeWhile (· = ""), ?_, ?_⟩
    · intro x hx
      simpa using List.mem_takeWhile_imp hx
    · rw [← h, List.takeWhile_append_dropWhile]
  refine ⟨hname, blank.length, ?_⟩
  rw [← List.reverse_reverse (Path.components path), ← hsplit, List.eq_replicate_of_mem hblank]
  simp

theorem makeFolder_eq_ok (h : t.makeFolder here path = .ok t') :
    GainsFolders t t' ∧ t'.hindrance = t.hindrance ∧ ∃ folder, t'.LeadsTo here path folder := by
  unfold makeFolder at h
  obtain ⟨_, -, h⟩ := Except.bind_eq_ok.1 h
  split at h
  · cases h
  · rename_i name above hcomponents
    obtain ⟨folder, hwalk, h⟩ := Except.bind_eq_ok.1 h
    split at h
    · cases h
    rename_i hself
    split at h
    · cases h
    rename_i hshort
    split at h
    · cases h
    rename_i hnone
    split at h
    · cases h
    · cases h
    cases h
    have hnone : t.at? (folder ++ [name]) = none := by simpa using hnone
    obtain ⟨hblank, n, hpath⟩ := exists_components hcomponents
    have hgains : GainsFolders t (t.put (folder ++ [name]) .folder) := .put (by simp) hnone
    have hmade : (t.put (folder ++ [name]) .folder).at? (folder ++ [name]) = some .folder := by
      rw [at?_put t (by simp), if_pos rfl]
    refine ⟨hgains, rfl, folder ++ [name], ?_, hmade⟩
    rw [walk_append, Except.bind_eq_ok] at hwalk
    obtain ⟨folder', hwalk, hsame⟩ := hwalk
    obtain ⟨hfolder, rfl⟩ := (walk_same (.inr rfl)).1 hsame
    have hwalk' := walk_of_keepsFolders hgains.keepsFolders hwalk
    have hstep := (walk_name hblank (fun h => hself (.inl h)) (fun h => hself (.inr h))
      (Nat.not_lt.1 hshort)).2 ⟨hgains.keepsFolders _ hfolder, rfl⟩
    rw [hpath, walk_append, walk_append, hwalk']
    simp only [bind, Except.bind, hstep, walk_replicate_blank hmade]

/-- Folders are made one in the other: all that is made on the way is folders,
and if all goes well, the first path leads to one. -/
theorem makeEach_eq {paths : List String} {made : Bool} (h : t.makeEach here paths = (t', made)) :
    GainsFolders t t' ∧ t'.hindrance = t.hindrance ∧ (made = true → ∀ path above,
      paths = path :: above → ∃ folder, t'.LeadsTo here path folder) := by
  have hthere : ∀ {t : FileTree} {path : String}, t.isFolder here path = true →
      ∃ folder, t.LeadsTo here path folder := fun h => (isFolder_eq_true_iff.1 h).2
  induction paths generalizing t t' made with
  | nil =>
    cases h
    exact ⟨.refl t, rfl, fun _ _ _ hpaths => absurd hpaths (List.cons_ne_nil _ _).symm⟩
  | cons path above ih =>
    suffices hsuffices : GainsFolders t t' ∧ t'.hindrance = t.hindrance ∧
        (made = true → ∃ folder, t'.LeadsTo here path folder) by
      refine ⟨hsuffices.1, hsuffices.2.1, ?_⟩
      intro hmade path' above' hpaths
      cases hpaths
      exact hsuffices.2.2 hmade
    rw [makeEach] at h
    split at h
    · rename_i t₁ hmake
      cases h
      obtain ⟨hgains, hsame, hleads⟩ := makeFolder_eq_ok hmake
      exact ⟨hgains, hsame, fun _ => hleads⟩
    · generalize hbefore : t.makeEach here above = before at h
      obtain ⟨t₁, made₁⟩ := before
      obtain ⟨hgains, hsame, -⟩ := ih hbefore
      dsimp only at h
      split at h
      · cases h
        exact ⟨hgains, hsame, fun hmade => absurd hmade (by simp)⟩
      · split at h
        · rename_i t₂ hmake
          cases h
          obtain ⟨hgains', hsame', hleads⟩ := makeFolder_eq_ok hmake
          exact ⟨hgains.trans hgains', hsame'.trans hsame, fun _ => hleads⟩
        · cases h
          exact ⟨hgains, hsame, hthere⟩
    · cases h
      exact ⟨.refl t, rfl, hthere⟩

/-- Making folders adds folders where nothing was, and nothing else. -/
theorem gainsFolders_makeFolders (t : FileTree) (here : Place) (path : String) :
    GainsFolders t (t.makeFolders here path).1 :=
  (makeEach_eq rfl).1

/-- What is refused at a place does not change. -/
theorem hindrance_makeFolders (t : FileTree) (here : Place) (path : String) :
    (t.makeFolders here path).1.hindrance = t.hindrance :=
  (makeEach_eq rfl).2.1

/-- **Where folders are made without fail, their path leads to a folder.** -/
theorem makeFolders_leadsTo (h : (t.makeFolders here path).2 = true) :
    ∃ folder, (t.makeFolders here path).1.LeadsTo here path folder :=
  (makeEach_eq rfl).2.2 h path (Path.above path) rfl

end AccessPolicy.FileTree
