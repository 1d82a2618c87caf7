/-
How a variable that sets the list of a path is written: its name
(`Variables.key?_of_words`) and its value (`Variables.ofList_names`).

A name is read from left to right, and so its double underscores are told from
single ones as long as no part of it ends in an underscore.
-/
import AccessPolicy.Layers.Variables
import AccessPolicy.Proofs.DottedPaths
import Mathlib.Data.List.TakeWhile

namespace AccessPolicy

namespace Text

/-! ## Text in lower case -/

/-- All characters of the text are ASCII. -/
def IsAscii (s : String) : Prop := ∀ c ∈ s.toList, c.toNat < 0x80

instance (s : String) : Decidable (IsAscii s) := List.decidableBAll _ _

theorem IsAscii.append {s t : String} (hs : IsAscii s) (ht : IsAscii t) : IsAscii (s ++ t) := by
  intro c hc
  rw [String.toList_append, List.mem_append] at hc
  exact hc.elim (hs c) (ht c)

theorem lowerFrom_of_ascii : ∀ {l : List Char} (before : List Char), (∀ c ∈ l, c.toNat < 0x80) →
    lowerFrom before l = l.map Char.toLower
  | [], _, _ => rfl
  | c :: l, before, h => by
    obtain ⟨hc, hl⟩ := List.forall_mem_cons.1 h
    have hne : c ≠ 'Σ' := by
      rintro rfl
      exact absurd hc (by decide)
    rw [lowerFrom, if_neg hne, lowerChar_ascii hc, lowerFrom_of_ascii _ hl]
    rfl

theorem lowerCase_of_ascii {s : String} (h : IsAscii s) :
    (lowerCase s).toList = s.toList.map Char.toLower := by
  rw [lowerCase, lowerFrom_of_ascii _ h, String.toList_ofList]

/-- What precedes an underscore, and ASCII after it, go to lower case separately. -/
theorem lowerCase_append (s : String) {t : String} (ht : IsAscii t) :
    (lowerCase (s ++ "_" ++ t)).toList = (lowerCase s).toList ++ '_' :: t.toList.map Char.toLower := by
  have hascii : ∀ c ∈ '_' :: t.toList, c.toNat < 0x80 := List.forall_mem_cons.2 ⟨by decide, ht⟩
  have hlist : (s ++ "_" ++ t).toList = s.toList ++ '_' :: t.toList := by simp
  rw [lowerCase, lowerCase, String.toList_ofList, String.toList_ofList, hlist, lowerFrom_append,
    lowerFrom_of_ascii _ hascii]
  rfl

/-! ## White space -/

/-- The text is white space. -/
def Blank (s : String) : Prop := ∀ c ∈ s.toList, isSpace c = true

instance (s : String) : Decidable (Blank s) := List.decidableBAll _ _

/-- There is no white space at the ends of the text. -/
def Tight (s : String) : Prop :=
  (∀ c ∈ s.toList.head?, isSpace c = false) ∧ ∀ c ∈ s.toList.getLast?, isSpace c = false

instance (s : String) : Decidable (Tight s) :=
  @instDecidableAnd _ _ (Option.decidableForallMem _) (Option.decidableForallMem _)

theorem dropWhile_of_head? {l : List Char} (h : ∀ c ∈ l.head?, isSpace c = false) :
    l.dropWhile isSpace = l := by
  cases l with
  | nil => rfl
  | cons c l => rw [List.dropWhile_cons_of_neg (by simp [h c rfl])]

/-- White space around a text is removed. -/
theorem trim_append {before s after : String} (hbefore : Blank before) (hs : Tight s)
    (hafter : Blank after) : trim (before ++ s ++ after) = s := by
  have hreverse : ∀ c ∈ after.toList.reverse, isSpace c = true := fun c hc =>
    hafter c (List.mem_reverse.1 hc)
  rw [trim, trimList, String.toList_append, String.toList_append, List.append_assoc,
    List.dropWhile_append_of_pos hbefore]
  by_cases hnil : s.toList = []
  · rw [hnil, List.nil_append, List.dropWhile_eq_nil_iff.2 hafter]
    exact (String.toList_eq_nil_iff.1 hnil).symm
  · obtain ⟨c, l, hcl⟩ := List.exists_cons_of_ne_nil hnil
    have hhead : (s.toList ++ after.toList).dropWhile isSpace = s.toList ++ after.toList := by
      rw [hcl]
      exact dropWhile_of_head? (by simpa [hcl] using hs.1)
    rw [hhead, List.reverse_append, List.dropWhile_append_of_pos hreverse,
      dropWhile_of_head? (by simpa using hs.2), List.reverse_reverse, String.ofList_toList]

end Text

namespace Variables

/-! ## Names -/

/-- The text may be a part of the name of a variable: no two underscores follow
each other in it, and none is at its end. -/
def IsWord (w : List Char) : Prop := ¬ ['_', '_'] <:+: w ∧ w.getLast? ≠ some '_'

instance (w : List Char) : Decidable (IsWord w) := inferInstanceAs (Decidable (_ ∧ _))

theorem IsWord.tail {c : Char} {w : List Char} (h : IsWord (c :: w)) : IsWord w := by
  refine ⟨fun hw => h.1 (List.infix_cons hw), fun hlast => h.2 ?_⟩
  rw [List.getLast?_cons, hlast, Option.getD_some]

/-- An underscore in a word is followed by something else. -/
theorem IsWord.head?_ne {w : List Char} (h : IsWord ('_' :: w)) (r : List Char) :
    (w ++ r).head? ≠ some '_' := by
  cases w with
  | nil => exact absurd rfl h.2
  | cons d w =>
    rintro hd
    cases (Option.some.inj hd : d = '_')
    exact h.1 (List.prefix_append ['_', '_'] w).isInfix

theorem after?_append (p l : List Char) : after? p (p ++ l) = some l := by
  induction p with
  | nil => rfl
  | cons c p ih => rw [List.cons_append, after?, if_pos rfl, ih]

theorem dotted_cons {c : Char} {l : List Char} (h : c = '_' → l.head? ≠ some '_') :
    dotted (c :: l) = c :: dotted l := by
  cases l with
  | nil => simp [dotted]
  | cons d l =>
    rw [dotted]
    rintro r rfl hdl
    exact h rfl (by rw [hdl]; rfl)

/-- A word is read as it stands. -/
theorem dotted_append : ∀ {w : List Char}, IsWord w → ∀ r, dotted (w ++ r) = w ++ dotted r
  | [], _, _ => rfl
  | c :: w, h, r => by
    have hnext : c = '_' → (w ++ r).head? ≠ some '_' := by
      rintro rfl
      exact h.head?_ne r
    rw [List.cons_append, dotted_cons hnext, dotted_append h.tail, List.cons_append]

/-- Double underscores between words are points. -/
theorem dotted_intercalate : ∀ {ws : List (List Char)}, (∀ w ∈ ws, IsWord w) →
    dotted (['_', '_'].intercalate ws) = ['.'].intercalate ws
  | [], _ => rfl
  | [w], h => by
    have hw := dotted_append (h w (by simp)) []
    simpa [dotted] using hw
  | w :: w' :: ws, h => by
    obtain ⟨hw, hws⟩ := List.forall_mem_cons.1 h
    have hdots : ∀ l, dotted ('_' :: '_' :: l) = '.' :: dotted l := fun l => by rw [dotted]
    rw [List.intercalate_cons_cons, List.append_assoc, dotted_append hw, List.cons_append,
      List.cons_append, List.nil_append, hdots, dotted_intercalate hws, List.intercalate_cons_cons,
      List.append_assoc]
    rfl

/-- **The name of a variable.** After the marker and an underscore, words with
double underscores between them are a path, in whatever case they are. -/
theorem key?_of_words {marker name : String} {ws : List String}
    (hname : (Text.lowerCase name).toList =
      (Text.lowerCase marker).toList ++ '_' :: ("__".intercalate ws).toList)
    (hws : ∀ w ∈ ws, IsWord w.toList) : key? marker name = some (".".intercalate ws) := by
  have hchars : ∀ w ∈ ws.map String.toList, IsWord w := by simpa using hws
  rw [key?, hname, List.append_cons _ _ ("__".intercalate ws).toList, after?_append, Option.map_some,
    String.toList_intercalate]
  show some (String.ofList (dotted (['_', '_'].intercalate (ws.map String.toList)))) = _
  rw [dotted_intercalate hchars]
  refine congrArg some (String.toList_injective ?_)
  rw [String.toList_ofList, String.toList_intercalate]
  rfl

/-! ## Values -/

/-- The text may stand in a list with commas: it is not empty, has no comma in
it, and no white space at its ends. -/
structure IsItem (s : String) : Prop where
  nonempty : s ≠ ""
  comma : ',' ∉ s.toList
  tight : Text.Tight s

/-- A slot in a list: a name, or nothing, with white space around it. -/
structure Slot where
  before : String
  name : String
  after : String

/-- The slot as it is written. -/
def Slot.text (p : Slot) : String := p.before ++ p.name ++ p.after

/-- The text lists the names with commas: in any order, with any repetitions,
with white space around them, and with empty slots among them. -/
def Writes (value : String) (names : NameSet) : Prop :=
  ∃ slots : List Slot, value = ",".intercalate (slots.map Slot.text) ∧
    (∀ p ∈ slots, Text.Blank p.before ∧ Text.Blank p.after) ∧
    ∀ s, s ≠ "" → (s ∈ names ↔ ∃ p ∈ slots, p.name = s)

theorem not_mem_of_blank {s : String} (h : Text.Blank s) : ',' ∉ s.toList := fun hc =>
  absurd (h ',' hc) (by decide)

/-- The slots of a list are the pieces between its commas. -/
theorem trim_pieces {slots : List Slot}
    (hblank : ∀ p ∈ slots, Text.Blank p.before ∧ Text.Blank p.after)
    (hname : ∀ p ∈ slots, ',' ∉ p.name.toList ∧ Text.Tight p.name) (hne : slots ≠ []) :
    (Text.splitAt ',' (",".intercalate (slots.map Slot.text))).map Text.trim =
      slots.map Slot.name := by
  have hcomma : ∀ s ∈ slots.map Slot.text, ',' ∉ s.toList := by
    intro s hs
    obtain ⟨p, hp, rfl⟩ := List.mem_map.1 hs
    obtain ⟨hbefore, hafter⟩ := hblank p hp
    simp [Slot.text, not_mem_of_blank hbefore, (hname p hp).1, not_mem_of_blank hafter]
  rw [Text.splitAt_intercalate rfl (by simpa using hne) hcomma, List.map_map]
  refine List.map_congr_left fun p hp => ?_
  exact Text.trim_append (hblank p hp).1 (hname p hp).2 (hblank p hp).2

/-- **The value of a variable.** A list of names is read as these names. -/
theorem ofList_names {value : String} {s : NameSet} (h : Writes value s) (hs : ∀ n ∈ s, IsItem n) :
    NameSet.ofList (names value) = s := by
  obtain ⟨slots, rfl, hblank, hmem⟩ := h
  have hname : ∀ p ∈ slots, ',' ∉ p.name.toList ∧ Text.Tight p.name := by
    intro p hp
    by_cases hempty : p.name = ""
    · simp [hempty, Text.Tight]
    · have hitem := hs p.name ((hmem p.name hempty).2 ⟨p, hp, rfl⟩)
      exact ⟨hitem.comma, hitem.tight⟩
  have hnames : ∀ x, x ∈ names (",".intercalate (slots.map Slot.text)) ↔
      x ≠ "" ∧ ∃ p ∈ slots, p.name = x := by
    intro x
    by_cases hne : slots = []
    · subst hne
      simp [names, Text.splitAt, Text.pieces, Text.trim, Text.trimList]
    · rw [names, trim_pieces hblank hname hne]
      simp [and_comm]
  refine NameSet.ext fun x => ?_
  rw [NameSet.mem_ofList, hnames]
  by_cases hempty : x = ""
  · simp only [hempty, ne_eq, not_true_eq_false, false_and, false_iff]
    exact fun hx => (hs "" hx).nonempty rfl
  · rw [hmem x hempty]
    exact and_iff_right hempty

end Variables

end AccessPolicy
