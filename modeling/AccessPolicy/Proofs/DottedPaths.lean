/-
Paths that are names with points between them: merging in at such a path is
merging a tree with a single branch (`set_ofText`).

This holds if every name is plain, that is, of letters, digits, underscores
and dashes; other texts are paths with indices, or no paths at all.
-/
import AccessPolicy.Proofs.Trees
import AccessPolicy.Text.Space

namespace AccessPolicy

namespace Text

/-! ## Pieces -/

/-- A text is its pieces with the separator between them. -/
theorem eq_of_pieces {sep : Char} : ∀ {l p : List Char} {ps : List (List Char)},
    pieces sep l = p :: ps → l = p ++ ps.flatMap (sep :: ·)
  | [], p, ps, h => by
    cases h
    rfl
  | c :: l, p, ps, h => by
    rw [pieces] at h
    split at h
    · rename_i hc
      cases h
      obtain ⟨q, qs, hq⟩ := List.exists_cons_of_ne_nil (pieces_ne_nil sep l)
      rw [hq, hc, List.flatMap_cons, List.nil_append, List.cons_append, ← eq_of_pieces hq]
    · cases hl : pieces sep l with
      | nil => exact absurd hl (pieces_ne_nil sep l)
      | cons q qs =>
        rw [hl] at h
        cases h
        rw [List.cons_append, ← eq_of_pieces hl]

theorem pieces_eq_splitOn (sep : Char) (l : List Char) : pieces sep l = l.splitOn sep := by
  induction l with
  | nil => rfl
  | cons c l ih =>
    rw [List.splitOn_eq_splitOnP, List.splitOnP_cons_eq_if_modifyHead, ← List.splitOn_eq_splitOnP, ← ih]
    by_cases hc : c = sep
    · simp [pieces, hc]
    · rw [pieces, if_neg hc, if_neg (by simpa using hc)]
      cases hl : pieces sep l with
      | nil => exact absurd hl (pieces_ne_nil sep l)
      | cons p ps => rfl

/-- Parts with a separator between them are the pieces of what they make up. -/
theorem splitAt_intercalate {sep : Char} {s : String} (hs : s.toList = [sep]) {l : List String}
    (hl : l ≠ []) (h : ∀ p ∈ l, sep ∉ p.toList) : splitAt sep (s.intercalate l) = l := by
  have hsplit : List.splitOn sep ([sep].intercalate (l.map String.toList)) = l.map String.toList :=
    List.splitOn_intercalate sep (by simpa using h) (by simpa using hl)
  rw [splitAt, String.toList_intercalate, hs, pieces_eq_splitOn, hsplit, List.map_map]
  simp

theorem pieces_append (sep : Char) (l r : List Char) :
    pieces sep (l ++ sep :: r) = pieces sep l ++ pieces sep r := by
  induction l with
  | nil => simp [pieces]
  | cons c l ih =>
    by_cases hc : c = sep
    · simp [pieces, hc, ih]
    · simp only [List.cons_append, pieces, if_neg hc, ih]
      cases hl : pieces sep l with
      | nil => exact absurd hl (pieces_ne_nil sep l)
      | cons p ps => rfl

/-- A separator divides the pieces before it from those after it. -/
theorem splitAt_append {sep : Char} {s : String} (hs : s.toList = [sep]) (a b : String) :
    splitAt sep (a ++ s ++ b) = splitAt sep a ++ splitAt sep b := by
  have hlist : (a ++ s ++ b).toList = a.toList ++ sep :: b.toList := by simp [hs]
  rw [splitAt, hlist, pieces_append, List.map_append]
  rfl

theorem pieces_injective {sep : Char} {l l' : List Char} (h : pieces sep l = pieces sep l') :
    l = l' := by
  obtain ⟨p, ps, hp⟩ := List.exists_cons_of_ne_nil (pieces_ne_nil sep l)
  rw [eq_of_pieces hp, ← eq_of_pieces (h ▸ hp)]

theorem splitAt_injective {sep : Char} {s s' : String} (h : splitAt sep s = splitAt sep s') :
    s = s' := by
  have hpieces : pieces sep s.toList = pieces sep s'.toList :=
    (List.map_inj_right fun _ _ => String.ofList_injective).1 h
  exact String.toList_injective (pieces_injective hpieces)

end Text

namespace KeyPath

/-- Whether the name may stand in a path by itself. -/
def isPlain (name : String) : Bool := !name.isEmpty && name.toList.all isKeyChar

theorem isPlain_ofList {p : List Char} :
    isPlain (String.ofList p) = true ↔ p ≠ [] ∧ ∀ c ∈ p, isKeyChar c = true := by
  simp [isPlain]

/-- Plain names with points between them are the pieces of what they make up. -/
theorem splitAt_intercalate_plain {names : List String} (hne : names ≠ [])
    (h : ∀ name ∈ names, isPlain name = true) : Text.splitAt '.' (".".intercalate names) = names :=
  Text.splitAt_intercalate rfl hne fun name hname hdot =>
    absurd ((isPlain_ofList.1 (by rw [String.ofList_toList]; exact h name hname)).2 '.' hdot) (by decide)

theorem splitAt_of_plain {name : String} (h : isPlain name = true) : Text.splitAt '.' name = [name] := by
  have hsplit := splitAt_intercalate_plain (List.cons_ne_nil name []) (List.forall_mem_singleton.2 h)
  rwa [String.intercalate_singleton] at hsplit

/-- A name is read up to the next point or the end. -/
theorem key?_append {p r : List Char} (hp : isPlain (String.ofList p) = true)
    (hr : r = [] ∨ ∃ r', r = '.' :: r') : key? (p ++ r) = some (String.ofList p, r) := by
  obtain ⟨hne, hall⟩ := isPlain_ofList.1 hp
  have hrest : r.takeWhile isKeyChar = [] ∧ r.dropWhile isKeyChar = r := by
    rcases hr with rfl | ⟨r', rfl⟩
    · exact ⟨rfl, rfl⟩
    · have hdot : isKeyChar '.' = false := by decide
      simp [hdot]
  rw [key?, List.takeWhile_append_of_pos hall, List.dropWhile_append_of_pos hall, hrest.1, hrest.2]
  simp [hne]

/-- Names that each have a point before them start with a point. -/
theorem flatMap_point (ps : List (List Char)) :
    ps.flatMap ('.' :: ·) = [] ∨ ∃ r, ps.flatMap ('.' :: ·) = '.' :: r := by
  cases ps with
  | nil => exact .inl rfl
  | cons p ps => exact .inr ⟨_, rfl⟩

theorem length_le_flatMap_point (ps : List (List Char)) :
    ps.length ≤ (ps.flatMap ('.' :: ·)).length := by
  induction ps with
  | nil => exact Nat.le_refl _
  | cons p ps ih =>
    rw [List.flatMap_cons, List.length_cons, List.length_append, List.length_cons]
    omega

theorem stepsFrom_flatMap : ∀ {ps : List (List Char)} {fuel : Nat}, ps.length ≤ fuel →
    (∀ p ∈ ps, isPlain (String.ofList p) = true) →
    stepsFrom fuel (ps.flatMap ('.' :: ·)) = some (ps.map fun p => .key (String.ofList p))
  | [], fuel, _, _ => by
    simp [stepsFrom]
  | p :: ps, 0, hfuel, _ => absurd hfuel (by simp)
  | p :: ps, fuel + 1, hfuel, hps => by
    obtain ⟨hp, hps⟩ := List.forall_mem_cons.1 hps
    have hlength : ps.length ≤ fuel := by simpa using hfuel
    show stepsFrom (fuel + 1) ('.' :: (p ++ ps.flatMap ('.' :: ·))) = _
    rw [stepsFrom, key?_append hp (flatMap_point ps)]
    show (stepsFrom fuel (ps.flatMap ('.' :: ·))).bind _ = _
    rw [stepsFrom_flatMap hlength hps]
    rfl

/-- **A text of plain names with points between them is their path.** -/
theorem parse?_of_plain {s : String} (h : ∀ name ∈ Text.splitAt '.' s, isPlain name = true) :
    ∃ root names, Text.splitAt '.' s = root :: names ∧
      parse? s = some ⟨root, names.map .key⟩ := by
  obtain ⟨p, ps, hp⟩ := List.exists_cons_of_ne_nil (Text.pieces_ne_nil '.' s.toList)
  have hsplit : Text.splitAt '.' s = String.ofList p :: ps.map String.ofList := by
    rw [Text.splitAt, hp, List.map_cons]
  rw [hsplit, List.forall_mem_cons] at h
  obtain ⟨hplain, hplains⟩ := h
  refine ⟨_, _, hsplit, ?_⟩
  have hs : s.toList = p ++ ps.flatMap ('.' :: ·) := Text.eq_of_pieces hp
  rw [parse?, hs, key?_append hplain (flatMap_point ps)]
  show (stepsFrom _ (ps.flatMap ('.' :: ·))).bind _ = _
  rw [stepsFrom_flatMap (length_le_flatMap_point ps) (by simpa using hplains)]
  simp

theorem set_ofText {s : String} (h : ∀ name ∈ Text.splitAt '.' s, isPlain name = true)
    (v t : Tree) : (ofText s).set v t = t.merge (.branch (Text.splitAt '.' s) v) := by
  obtain ⟨root, names, hsplit, hparse⟩ := parse?_of_plain h
  rw [ofText, hparse, hsplit, Option.getD_some, set_eq_merge]

/-- Paths of plain names have one spelling each. -/
theorem ofText_injective {s s' : String} (h : ∀ name ∈ Text.splitAt '.' s, isPlain name = true)
    (h' : ∀ name ∈ Text.splitAt '.' s', isPlain name = true) (heq : ofText s = ofText s') : s = s' := by
  obtain ⟨root, names, hsplit, hparse⟩ := parse?_of_plain h
  obtain ⟨root', names', hsplit', hparse'⟩ := parse?_of_plain h'
  rw [ofText, ofText, hparse, hparse', Option.getD_some, Option.getD_some, KeyPath.mk.injEq] at heq
  have hnames : names = names' := (List.map_inj_right fun _ _ => PathStep.key.inj).1 heq.2
  exact Text.splitAt_injective (by rw [hsplit, hsplit', heq.1, hnames])

/-- A path of plain names asks for no list. -/
theorem fits_ofText {s : String} (h : ∀ name ∈ Text.splitAt '.' s, isPlain name = true) (room : Nat) :
    (ofText s).fits room = true := by
  obtain ⟨root, names, -, hparse⟩ := parse?_of_plain h
  rw [ofText, hparse, Option.getD_some, fits, List.all_map, List.all_eq_true]
  exact fun _ _ => rfl

end KeyPath

end AccessPolicy
