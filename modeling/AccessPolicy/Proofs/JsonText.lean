/-
JSON text reads back: the draft of the text that a tree is printed to is that
tree (`Draft.ofText_print`), on one line as well as indented.

Numbers are left out; none of the data that is encoded has any. The steps that
reading takes are counted as it goes along, three for each character at most,
which is what it is given.
-/
import AccessPolicy.Json.Format
import AccessPolicy.Json.Printer

namespace AccessPolicy

mutual
/-- Whether there is no number in the tree. -/
def Tree.numberFree : Tree → Bool
  | .integer _ | .float _ => false
  | .list ts => numberFreeItems ts
  | .table es => numberFreeEntries es
  | _ => true

/-- Whether there is no number in the elements of a list. -/
def Tree.numberFreeItems : List Tree → Bool
  | [] => true
  | t :: ts => t.numberFree && numberFreeItems ts

/-- Whether there is no number in the entries of a table. -/
def Tree.numberFreeEntries : List (String × Tree) → Bool
  | [] => true
  | (_, t) :: es => t.numberFree && numberFreeEntries es
end

namespace Json

mutual
/-- The draft of a tree. -/
def Draft.ofTree : Tree → Draft
  | .null => .null
  | .bool b => .bool b
  | .integer i => .number (.ok (.integer i))
  | .float x => .number (.ok (.float x))
  | .text s => .text (.ok s)
  | .list ts => .list (ofTrees ts) (.ok ())
  | .table es => .object (ofEntries es) (.ok ())

/-- The drafts of the elements of a list. -/
def Draft.ofTrees : List Tree → List Draft
  | [] => []
  | t :: ts => .ofTree t :: ofTrees ts

/-- The drafts of the entries of a table. -/
def Draft.ofEntries : List (String × Tree) → List (Except ReadError String × Draft)
  | [] => []
  | (key, t) :: es => (.ok key, .ofTree t) :: ofEntries es
end

/-! ## Blanks -/

/-- Whether the character is white space. -/
def isBlank (c : Char) : Bool := c == ' ' || c == '\n' || c == '\t' || c == '\r'

theorem skipBlanks_append {w : List Char} (hw : w.all isBlank = true) (l : List Char) :
    skipBlanks (w ++ l) = skipBlanks l :=
  List.dropWhile_append_of_pos (List.all_eq_true.1 hw)

theorem skipBlanks_cons {c : Char} (hc : isBlank c = false) (l : List Char) :
    skipBlanks (c :: l) = c :: l :=
  List.dropWhile_cons_of_neg (p := isBlank) (by simp [hc])

/-- Between the parts of lists and objects there is nothing but white space, the
commas and the colons. -/
structure Layout.Plain (layout : Layout) : Prop where
  newline : ∀ depth, (layout.newline depth).toList.all isBlank = true
  colon : ∃ w, layout.colon.toList = ':' :: w ∧ w.all isBlank = true

theorem compact_plain : compact.Plain where
  newline _ := rfl
  colon := ⟨[], rfl, rfl⟩

theorem pretty_plain : pretty.Plain where
  newline depth := by
    have hindent : ∀ s ∈ List.replicate depth "  ", ∀ c ∈ s.toList, isBlank c = true := by
      intro s hs
      rw [List.eq_of_mem_replicate hs]
      exact List.all_eq_true.1 rfl
    simp only [Layout.newline, pretty, String.toList_append, String.toList_join, List.all_append,
      List.all_flatMap, Bool.and_eq_true, List.all_eq_true]
    exact ⟨List.all_eq_true.1 rfl, hindent⟩
  colon := ⟨[' '], by decide, by decide⟩

/-! ## Texts -/

/-- The number that four digits stand for. -/
def fourDigits? : List Char → Option Nat
  | [a, b, c, d] => hex4 a b c d
  | _ => none

theorem codeUnit_of_fourDigits? {l : List Char} {n : Nat} (h : fourDigits? l = some n)
    (r : List Char) : codeUnit (l ++ r) = .ok (n, r) := by
  unfold fourDigits? at h
  split at h
  · simp [codeUnit, h]
  · cases h

/-- The escape of a character without a letter of its own. -/
theorem codeUnit_escape {n : Nat} (hn : n < 0x20) (r : List Char) : codeUnit
    (List.replicate (4 - (Text.hexDigits n).length) '0' ++ Text.hexDigits n ++ r) = .ok (n, r) := by
  have hdigits : ∀ n < 0x20, fourDigits? (List.replicate (4 - (Text.hexDigits n).length) '0' ++
      Text.hexDigits n) = some n := by
    decide +kernel
  exact codeUnit_of_fourDigits? (hdigits n hn) r

/-- A character is printed as itself, with a letter, or with a number. -/
theorem escapedChar_cases (c : Char) :
    (∃ e, escapedChar c = ['\\', e] ∧ e ≠ 'u' ∧ shortEscape e = some c) ∨
      (c.toNat < 0x20 ∧ escapedChar c = '\\' :: 'u' ::
        (List.replicate (4 - (Text.hexDigits c.toNat).length) '0' ++ Text.hexDigits c.toNat)) ∨
      (escapedChar c = [c] ∧ c ≠ '"' ∧ c ≠ '\\' ∧ ¬ c.toNat < 0x20) := by
  rw [escapedChar]
  iterate 7
    split
    · rename_i hc
      exact .inl ⟨_, rfl, by decide, by rw [hc]; rfl⟩
  split
  · exact .inr (.inl ⟨‹_›, rfl⟩)
  · exact .inr (.inr ⟨rfl, ‹_›, ‹_›, ‹_›⟩)

/-- A character is read back from how it is printed. -/
theorem readText_escapedChar (fuel : Nat) (done : List Char) (c : Char) (l : List Char) :
    readText (fuel + 1) done (escapedChar c ++ l) = readText fuel (c :: done) l := by
  obtain ⟨e, he, hu, hc⟩ | ⟨hc, he⟩ | ⟨he, hquote, hslash, hc⟩ := escapedChar_cases c
  · rw [he, List.cons_append, List.singleton_append, readText]
    · simp [hc]
    · simp [hu]
  · rw [he, List.cons_append, List.cons_append, readText, codeUnit_escape hc]
    have hunit : fromCodeUnit c.toNat l = .ok (c, l) := by
      unfold fromCodeUnit
      rw [if_neg (by omega), if_pos (by omega), Char.ofNat_toNat]
    show (fromCodeUnit c.toNat l >>= fun p => _) = _
    rw [hunit]
    rfl
  · rw [he, List.singleton_append, readText, if_neg hquote, if_neg hc]
    simp [hslash]

/-- One who passes over a text passes over a printed character. -/
theorem passText_escapedChar (fuel : Nat) (c : Char) (l : List Char) :
    passText (fuel + 1) (escapedChar c ++ l) = passText fuel l := by
  obtain ⟨e, he, hu, hc⟩ | ⟨hc, he⟩ | ⟨he, hquote, hslash, hc⟩ := escapedChar_cases c
  · rw [he, List.cons_append, List.singleton_append, passText]
    · simp [hc]
    · simp [hu]
  · rw [he, List.cons_append, List.cons_append, passText, codeUnit_escape hc]
    rfl
  · rw [he, List.singleton_append, passText, if_neg hquote, if_neg hc]
    simp [hslash]

theorem length_le_flatMap_escapedChar (s : List Char) :
    s.length ≤ (s.flatMap escapedChar).length := by
  induction s with
  | nil => exact Nat.le_refl _
  | cons c s ih =>
    have hc : 1 ≤ (escapedChar c).length := by
      obtain ⟨e, he, -⟩ | ⟨-, he⟩ | ⟨he, -⟩ := escapedChar_cases c <;> simp [he]
    rw [List.flatMap_cons, List.length_cons, List.length_append]
    omega

/-- A text is read back from how it is printed. -/
theorem scanText_escaped (s r : List Char) :
    scanText (s.flatMap escapedChar ++ '"' :: r) = (.ok (String.ofList s), .ok r) := by
  have hread : ∀ (s : List Char) (fuel : Nat) (done : List Char), s.length < fuel →
      readText fuel done (s.flatMap escapedChar ++ '"' :: r) =
        .ok (String.ofList (done.reverse ++ s)) := by
    intro s
    induction s with
    | nil =>
      intro fuel done hfuel
      obtain ⟨n, rfl⟩ := Nat.exists_eq_add_one.2 hfuel
      simp [readText]
    | cons c s ih =>
      intro fuel done hfuel
      obtain ⟨n, rfl⟩ := Nat.exists_eq_add_one.2 (Nat.zero_lt_of_lt hfuel)
      rw [List.flatMap_cons, List.append_assoc, readText_escapedChar,
        ih n (c :: done) (by simpa using hfuel)]
      simp
  have hpass : ∀ (s : List Char) (fuel : Nat), s.length < fuel →
      passText fuel (s.flatMap escapedChar ++ '"' :: r) = .ok r := by
    intro s
    induction s with
    | nil =>
      intro fuel hfuel
      obtain ⟨n, rfl⟩ := Nat.exists_eq_add_one.2 hfuel
      simp [passText]
    | cons c s ih =>
      intro fuel hfuel
      obtain ⟨n, rfl⟩ := Nat.exists_eq_add_one.2 (Nat.zero_lt_of_lt hfuel)
      rw [List.flatMap_cons, List.append_assoc, passText_escapedChar, ih n (by simpa using hfuel)]
  have hlength : s.length < (s.flatMap escapedChar ++ '"' :: r).length + 1 := by
    have := length_le_flatMap_escapedChar s
    rw [List.length_append, List.length_cons]
    omega
  rw [scanText, hread s _ [] hlength, hpass s _ hlength]
  rfl

/-! ## Values -/

/-- Reading a part of a text takes at most three steps for each of its
characters, and comes to another phase after it. -/
def Steps (phase : Phase) (frames : List Frame) (part : List Char) (phase' : Phase)
    (frames' : List Frame) : Prop :=
  ∃ k ≤ 3 * part.length, ∀ fuel rest,
    scan (fuel + k) phase frames (part ++ rest) = scan fuel phase' frames' rest

theorem Steps.trans {phase phase' phase'' : Phase} {frames frames' frames'' : List Frame}
    {part part' : List Char} (h : Steps phase frames part phase' frames')
    (h' : Steps phase' frames' part' phase'' frames'') :
    Steps phase frames (part ++ part') phase'' frames'' := by
  obtain ⟨k, hk, hsteps⟩ := h
  obtain ⟨k', hk', hsteps'⟩ := h'
  refine ⟨k' + k, by rw [List.length_append]; omega, fun fuel rest => ?_⟩
  rw [← Nat.add_assoc, List.append_assoc, hsteps, hsteps']

/-- One step for a part. -/
theorem Steps.single {phase phase' : Phase} {frames frames' : List Frame} {part : List Char}
    (hpart : part ≠ []) (h : ∀ fuel rest,
      scan (fuel + 1) phase frames (part ++ rest) = scan fuel phase' frames' rest) :
    Steps phase frames part phase' frames' := by
  have hlength := List.length_pos_iff.2 hpart
  exact ⟨1, by omega, h⟩

attribute [local simp] scan in
/-- White space is no obstacle inside of lists and objects. -/
theorem scan_blanks (phase : Phase) {frames : List Frame}
    (hphase : ∀ d, phase = .after d → frames ≠ []) {w : List Char} (hw : w.all isBlank = true)
    (fuel : Nat) (l : List Char) : scan fuel phase frames (w ++ l) = scan fuel phase frames l := by
  cases fuel with
  | zero => cases phase <;> rfl
  | succ fuel =>
    cases phase with
    | after d =>
      cases frames with
      | nil => exact absurd rfl (hphase d rfl)
      | cons frame frames => cases frame <;> simp [skipBlanks_append hw]
    | _ => simp [skipBlanks_append hw]

theorem Steps.blanks {phase phase' : Phase} {frames frames' : List Frame} {part : List Char}
    (h : Steps phase frames part phase' frames') (hphase : ∀ d, phase = .after d → frames ≠ [])
    {w : List Char} (hw : w.all isBlank = true) :
    Steps phase frames (w ++ part) phase' frames' := by
  obtain ⟨k, hk, hsteps⟩ := h
  refine ⟨k, by rw [List.length_append]; omega, fun fuel rest => ?_⟩
  rw [List.append_assoc, scan_blanks phase hphase hw, hsteps]

/-! ### The parts of lists and objects -/

variable {frames : List Frame} {d : Draft} {items : List Draft}
  {entries : List (Except ReadError String × Draft)} {key : Except ReadError String}

/-- A value does not start with white space, nor with the end of a list. -/
def Starts (l : List Char) : Prop := ∃ c r, l = c :: r ∧ isBlank c = false ∧ c ≠ ']'

theorem steps_emptyList : Steps .value frames ['[', ']'] (.after (.list [] (.ok ()))) frames :=
  ⟨2, by simp, fun _ _ => rfl⟩

theorem steps_emptyObject :
    Steps .value frames ['\x7b', '\x7d'] (.after (.object [] (.ok ()))) frames :=
  ⟨2, by simp, fun _ _ => rfl⟩

theorem steps_openList {w part : List Char} {phase : Phase} {frames' : List Frame}
    (hw : w.all isBlank = true) (hstarts : Starts part)
    (h : Steps .value (.list [] :: frames) part phase frames') :
    Steps .value frames ('[' :: (w ++ part)) phase frames' := by
  obtain ⟨c, r, rfl, hblank, hc⟩ := hstarts
  obtain ⟨k, hk, hsteps⟩ := h
  refine ⟨k + 2, by rw [List.length_cons, List.length_append]; omega, fun fuel rest => ?_⟩
  have hopen : scan (fuel + (k + 2)) .value frames ('[' :: (w ++ c :: r) ++ rest) =
      scan (fuel + k + 1) .listStart frames (w ++ (c :: r ++ rest)) := by
    rw [← List.append_assoc]
    rfl
  rw [hopen, scan_blanks .listStart (fun _ h => nomatch h) hw, List.cons_append, scan,
    skipBlanks_cons hblank, ← hsteps]
  simp [hc]

theorem steps_nextItem (d : Draft) (items : List Draft) {w part : List Char} {phase : Phase}
    {frames' : List Frame} (hw : w.all isBlank = true) (hstarts : Starts part)
    (h : Steps .value (.list (d :: items) :: frames) part phase frames') :
    Steps (.after d) (.list items :: frames) (',' :: (w ++ part)) phase frames' := by
  obtain ⟨c, r, rfl, hblank, hc⟩ := hstarts
  obtain ⟨k, hk, hsteps⟩ := h
  refine ⟨k + 1, by rw [List.length_cons, List.length_append]; omega, fun fuel rest => ?_⟩
  have hskip : skipBlanks (w ++ c :: r ++ rest) = c :: (r ++ rest) := by
    rw [List.append_assoc, skipBlanks_append hw, List.cons_append, skipBlanks_cons hblank]
  rw [← hsteps]
  show scan (fuel + k + 1) (.after d) (.list items :: frames) (',' :: (w ++ c :: r ++ rest)) = _
  rw [scan, skipBlanks_cons (by decide)]
  simp only [hskip]
  simp [hc]

theorem steps_closeList :
    Steps (.after d) (.list items :: frames) [']'] (.after (.list (d :: items).reverse (.ok ())))
      frames :=
  Steps.single (by simp) fun _ _ => rfl

theorem steps_openObject {w part : List Char} {phase : Phase} {frames' : List Frame}
    (hw : w.all isBlank = true) (h : Steps (.key []) frames ('"' :: part) phase frames') :
    Steps .value frames ('\x7b' :: (w ++ '"' :: part)) phase frames' := by
  obtain ⟨k, hk, hsteps⟩ := h
  refine ⟨k + 2, by rw [List.length_cons, List.length_append]; omega, fun fuel rest => ?_⟩
  have hopen : scan (fuel + (k + 2)) .value frames ('\x7b' :: (w ++ '"' :: part) ++ rest) =
      scan (fuel + k + 1) .objectStart frames (w ++ ('"' :: part ++ rest)) := by
    rw [← List.append_assoc]
    rfl
  rw [hopen, scan_blanks .objectStart (fun _ h => nomatch h) hw, ← hsteps]
  rfl

theorem steps_nextEntry : Steps (.after d) (.object entries key :: frames) [',']
    (.key ((key, d) :: entries)) frames :=
  Steps.single (by simp) fun _ _ => rfl

theorem steps_closeObject : Steps (.after d) (.object entries key :: frames) ['\x7d']
    (.after (.object ((key, d) :: entries).reverse (.ok ()))) frames :=
  Steps.single (by simp) fun _ _ => rfl

theorem printText_toList (s : String) :
    (printText s).toList = '"' :: (s.toList.flatMap escapedChar ++ ['"']) := by
  simp [printText]

theorem scanText_printText (s : String) (r : List Char) :
    scanText (s.toList.flatMap escapedChar ++ ['"'] ++ r) = (.ok s, .ok r) := by
  rw [List.append_assoc, List.singleton_append, scanText_escaped, String.ofList_toList]

theorem steps_text (s : String) :
    Steps .value frames (printText s).toList (.after (.text (.ok s))) frames := by
  rw [printText_toList]
  refine Steps.single (by simp) fun fuel rest => ?_
  have hquote : ∀ {l r : List Char}, scanText l = (.ok s, .ok r) →
      scan (fuel + 1) .value frames ('"' :: l) = scan fuel (.after (.text (.ok s))) frames r := by
    intro l r h
    rw [scan, skipBlanks_cons (by decide)]
    simp [h]
  exact hquote (scanText_printText s rest)

theorem steps_key {layout : Layout} (hlayout : layout.Plain) (s : String)
    (entries : List (Except ReadError String × Draft)) (frames : List Frame) :
    ∃ w, (printText s ++ layout.colon).toList = (printText s).toList ++ (':' :: w) ∧
      w.all isBlank = true ∧ Steps (.key entries) frames ((printText s).toList ++ [':']) .value
        (.object entries (.ok s) :: frames) := by
  obtain ⟨w, hcolon, hw⟩ := hlayout.colon
  refine ⟨w, by rw [String.toList_append, hcolon], hw, ?_⟩
  rw [printText_toList]
  refine Steps.single (by simp) fun fuel rest => ?_
  have hquote : ∀ {l r : List Char}, scanText l = (.ok s, .ok (':' :: r)) →
      scan (fuel + 1) (.key entries) frames ('"' :: l) =
        scan fuel .value (.object entries (.ok s) :: frames) r := by
    intro l r h
    rw [scan, skipBlanks_cons (by decide)]
    simp only [h]
    rfl
  rw [List.append_assoc, List.singleton_append]
  exact hquote (scanText_printText s (':' :: rest))

/-! ### Trees -/

/-- What stands between the brackets of parts of which there is one. -/
theorem bracketed_toList (layout : Layout) (depth : Nat) (opening closing part : String)
    (parts : List String) : (bracketed layout depth opening closing (part :: parts)).toList =
      opening.toList ++ ((layout.newline (depth + 1)).toList ++ part.toList
        ++ parts.flatMap (fun p => ',' :: ((layout.newline (depth + 1)).toList ++ p.toList))
        ++ (layout.newline depth).toList ++ closing.toList) := by
  have hjoin : ∀ (sep part : String) (parts : List String), (sep.intercalate (part :: parts)).toList =
      part.toList ++ parts.flatMap fun p => sep.toList ++ p.toList := by
    intro sep part parts
    induction parts generalizing part with
    | nil => simp
    | cons p parts ih =>
      rw [String.intercalate_cons_cons, String.toList_append, String.toList_append, ih,
        List.flatMap_cons]
      simp
  rw [bracketed, if_neg (by simp)]
  simp only [String.toList_append, hjoin, List.append_assoc]
  rfl

theorem printItems_eq_map (layout : Layout) (depth : Nat) (ts : List Tree) :
    printItems layout depth ts = ts.map (print layout depth) := by
  induction ts with
  | nil => rfl
  | cons t ts ih => rw [printItems, ih, List.map_cons]

/-- An entry of an object. -/
def printEntry (layout : Layout) (depth : Nat) (e : String × Tree) : String :=
  printText e.1 ++ layout.colon ++ print layout depth e.2

theorem printEntries_eq_map (layout : Layout) (depth : Nat) (es : List (String × Tree)) :
    printEntries layout depth es = es.map (printEntry layout depth) := by
  induction es with
  | nil => rfl
  | cons e es ih => rw [printEntries, ih, List.map_cons, printEntry]

theorem print_null (layout : Layout) (depth : Nat) :
    (print layout depth .null).toList = ['n', 'u', 'l', 'l'] := by
  rw [print]
  decide

theorem print_bool (layout : Layout) (depth : Nat) (b : Bool) :
    (print layout depth (.bool b)).toList =
      if b then ['t', 'r', 'u', 'e'] else ['f', 'a', 'l', 's', 'e'] := by
  rw [print]
  cases b <;> decide

theorem print_nil (layout : Layout) (depth : Nat) :
    (print layout depth (.list [])).toList = ['[', ']'] := by
  rw [print, printItems]
  show ("[" ++ "]").toList = _
  decide

theorem print_empty (layout : Layout) (depth : Nat) :
    (print layout depth (.table [])).toList = ['\x7b', '\x7d'] := by
  rw [print, printEntries]
  show ("\x7b" ++ "\x7d").toList = _
  decide

/-- The elements of a list after the first, and its end. -/
def moreItems (layout : Layout) (depth : Nat) (ts : List Tree) : List Char :=
  ts.flatMap (fun t => ',' :: ((layout.newline (depth + 1)).toList
    ++ (print layout (depth + 1) t).toList)) ++ ((layout.newline depth).toList ++ [']'])

theorem print_list (layout : Layout) (depth : Nat) (t : Tree) (ts : List Tree) :
    (print layout depth (.list (t :: ts))).toList = '[' :: ((layout.newline (depth + 1)).toList
      ++ ((print layout (depth + 1) t).toList ++ moreItems layout depth ts)) := by
  rw [print, printItems_eq_map, List.map_cons, bracketed_toList, List.flatMap_map, moreItems]
  simp only [List.append_assoc]
  rfl

/-- The entries of an object after the first, and its end. -/
def moreEntries (layout : Layout) (depth : Nat) (es : List (String × Tree)) : List Char :=
  es.flatMap (fun e => ',' :: ((layout.newline (depth + 1)).toList
    ++ (printEntry layout (depth + 1) e).toList)) ++ ((layout.newline depth).toList ++ ['\x7d'])

theorem print_table (layout : Layout) (depth : Nat) (e : String × Tree) (es : List (String × Tree)) :
    (print layout depth (.table (e :: es))).toList =
      '\x7b' :: ((layout.newline (depth + 1)).toList
        ++ ((printEntry layout (depth + 1) e).toList ++ moreEntries layout depth es)) := by
  rw [print, printEntries_eq_map, List.map_cons, bracketed_toList, List.flatMap_map, moreEntries]
  simp only [List.append_assoc]
  rfl

theorem print_starts (layout : Layout) (depth : Nat) {t : Tree} (ht : t.numberFree = true) :
    Starts (print layout depth t).toList := by
  cases t with
  | null => exact ⟨'n', _, print_null layout depth, by decide, by decide⟩
  | bool b =>
    rw [print_bool]
    cases b
    · exact ⟨'f', _, rfl, by decide, by decide⟩
    · exact ⟨'t', _, rfl, by decide, by decide⟩
  | integer i => cases ht
  | float x => cases ht
  | text s => exact ⟨'"', _, printText_toList s, by decide, by decide⟩
  | list ts =>
    cases ts with
    | nil => exact ⟨'[', _, print_nil layout depth, by decide, by decide⟩
    | cons t ts => exact ⟨'[', _, print_list layout depth t ts, by decide, by decide⟩
  | table es =>
    cases es with
    | nil => exact ⟨'\x7b', _, print_empty layout depth, by decide, by decide⟩
    | cons e es => exact ⟨'\x7b', _, print_table layout depth e es, by decide, by decide⟩

/-- An entry starts with the quote of its key. -/
theorem printEntry_starts (layout : Layout) (depth : Nat) (e : String × Tree) :
    ∃ part, (printEntry layout depth e).toList = '"' :: part := by
  rw [printEntry, String.toList_append, String.toList_append, printText_toList]
  exact ⟨_, rfl⟩

section

variable {layout : Layout} (hlayout : layout.Plain)

include hlayout

/-- An entry is read if its value is. -/
theorem steps_entry {depth : Nat} (e : String × Tree)
    (entries : List (Except ReadError String × Draft)) (frames : List Frame)
    (h : ∀ frames, Steps .value frames (print layout depth e.2).toList (.after d) frames) :
    Steps (.key entries) frames (printEntry layout depth e).toList (.after d)
      (.object entries (.ok e.1) :: frames) := by
  obtain ⟨w, hcolon, hw, hkey⟩ := steps_key hlayout e.1 entries frames
  have hvalue := (h (.object entries (.ok e.1) :: frames)).blanks (fun _ h => nomatch h) hw
  have htext : (printEntry layout depth e).toList =
      (printText e.1).toList ++ [':'] ++ (w ++ (print layout depth e.2).toList) := by
    rw [printEntry, String.toList_append, hcolon]
    simp
  rw [htext]
  exact hkey.trans hvalue

mutual
/-- A tree is read back from its text. -/
theorem steps_print : ∀ {t : Tree}, t.numberFree = true → ∀ (depth : Nat) (frames : List Frame),
    Steps .value frames (print layout depth t).toList (.after (.ofTree t)) frames
  | .null, _, depth, _ => by
    rw [print_null]
    exact Steps.single (by simp) fun _ _ => rfl
  | .bool b, _, depth, _ => by
    rw [print_bool]
    cases b <;> exact Steps.single (by simp) fun _ _ => rfl
  | .text s, _, _, _ => steps_text s
  | .list [], _, depth, _ => by
    rw [print_nil]
    exact steps_emptyList
  | .list (t :: ts), ht, depth, frames => by
    obtain ⟨ht, hts⟩ := Bool.and_eq_true_iff.1 ht
    rw [print_list, ← List.append_assoc, ← List.cons_append]
    exact (steps_openList (hlayout.newline (depth + 1)) (print_starts layout (depth + 1) ht)
      (steps_print ht (depth + 1) _)).trans (steps_printItems hts depth _ [] frames)
  | .table [], _, depth, _ => by
    rw [print_empty]
    exact steps_emptyObject
  | .table ((key, t) :: es), ht, depth, frames => by
    obtain ⟨ht, hes⟩ := Bool.and_eq_true_iff.1 ht
    have hentry := steps_entry hlayout (key, t) [] frames fun frames =>
      steps_print ht (depth + 1) frames
    obtain ⟨part, hpart⟩ := printEntry_starts layout (depth + 1) (key, t)
    rw [print_table, ← List.append_assoc, ← List.cons_append]
    rw [hpart] at hentry ⊢
    exact (steps_openObject (hlayout.newline (depth + 1)) hentry).trans
      (steps_printEntries hes depth (.ok key) _ [] frames)

theorem steps_printItems : ∀ {ts : List Tree}, Tree.numberFreeItems ts = true →
    ∀ (depth : Nat) (d : Draft) (items : List Draft) (frames : List Frame),
    Steps (.after d) (.list items :: frames) (moreItems layout depth ts)
      (.after (.list ((d :: items).reverse ++ Draft.ofTrees ts) (.ok ()))) frames
  | [], _, depth, d, items, frames => by
    rw [Draft.ofTrees, List.append_nil]
    exact steps_closeList.blanks (by simp) (hlayout.newline depth)
  | t :: ts, ht, depth, d, items, frames => by
    obtain ⟨ht, hts⟩ := Bool.and_eq_true_iff.1 ht
    have hfirst := steps_nextItem d items (hlayout.newline (depth + 1))
      (print_starts layout (depth + 1) ht) (steps_print ht (depth + 1) (.list (d :: items) :: frames))
    have hrest := hfirst.trans (steps_printItems hts depth (.ofTree t) (d :: items) frames)
    have hitems : (Draft.ofTree t :: d :: items).reverse ++ Draft.ofTrees ts =
        (d :: items).reverse ++ Draft.ofTrees (t :: ts) := by
      rw [List.reverse_cons, List.append_assoc]
      rfl
    rw [hitems] at hrest
    rw [moreItems, List.flatMap_cons, List.append_assoc]
    exact hrest

theorem steps_printEntries : ∀ {es : List (String × Tree)}, Tree.numberFreeEntries es = true →
    ∀ (depth : Nat) (key : Except ReadError String) (d : Draft)
      (entries : List (Except ReadError String × Draft)) (frames : List Frame),
    Steps (.after d) (.object entries key :: frames) (moreEntries layout depth es)
      (.after (.object (((key, d) :: entries).reverse ++ Draft.ofEntries es) (.ok ()))) frames
  | [], _, depth, key, d, entries, frames => by
    rw [Draft.ofEntries, List.append_nil]
    exact steps_closeObject.blanks (by simp) (hlayout.newline depth)
  | (key', t) :: es, ht, depth, key, d, entries, frames => by
    obtain ⟨ht, hes⟩ := Bool.and_eq_true_iff.1 ht
    have hentry := (steps_entry hlayout (key', t) ((key, d) :: entries) frames fun frames =>
      steps_print ht (depth + 1) frames).blanks
        (fun _ h => nomatch h) (hlayout.newline (depth + 1))
    have hrest := (steps_nextEntry.trans hentry).trans
      (steps_printEntries hes depth (.ok key') (.ofTree t) ((key, d) :: entries) frames)
    have hentries : ((.ok key', Draft.ofTree t) :: (key, d) :: entries).reverse ++ Draft.ofEntries es =
        ((key, d) :: entries).reverse ++ Draft.ofEntries ((key', t) :: es) := by
      rw [List.reverse_cons, List.append_assoc]
      rfl
    rw [hentries] at hrest
    rw [moreEntries, List.flatMap_cons, List.append_assoc]
    exact hrest
end

/-- **JSON text reads back.** Nothing is left of the text. -/
theorem Draft.ofText_print {t : Tree} (ht : t.numberFree = true) :
    Draft.ofText (print layout 0 t) = (.ofTree t, some []) := by
  obtain ⟨k, hk, hsteps⟩ := steps_print hlayout ht 0 []
  obtain ⟨fuel, hfuel⟩ := Nat.exists_eq_add_of_le hk
  rw [Draft.ofText, show 3 * (print layout 0 t).toList.length + 3 = fuel + 2 + 1 + k by omega,
    ← List.append_nil (print layout 0 t).toList, hsteps]
  rfl

end

end Json

end AccessPolicy
