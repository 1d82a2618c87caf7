/-
What two dialects of TOML make of one document.

Dialects differ in which definitions they allow, so that one may refuse what
the other reads. Where both read a document, they come to the same tree, apart
from the dates and times in it (`ofText?_agree`): these are tables of one entry
to the one and texts to the other (`Tree.Alike`).
-/
import AccessPolicy.Proofs.FileLayers
import Mathlib.Data.List.Forall2

namespace AccessPolicy

/-! ## Two results -/

section

variable {α β γ δ : Type} {P : α → β → Prop} {Q : γ → δ → Prop}

/-- If there are both results, they are related. -/
def Agree (P : α → β → Prop) (x : Option α) (y : Option β) : Prop :=
  ∀ a, x = some a → ∀ b, y = some b → P a b

theorem Agree.none_left {y : Option β} : Agree P none y := nofun

theorem Agree.none_right {x : Option α} : Agree P x none := nofun

theorem Agree.some {a : α} {b : β} (h : P a b) : Agree P (.some a) (.some b) := by
  rintro _ ⟨⟩ _ ⟨⟩
  exact h

theorem Agree.bind {x : Option α} {y : Option β} {f : α → Option γ} {g : β → Option δ}
    (h : Agree P x y) (hfg : ∀ a b, P a b → Agree Q (f a) (g b)) :
    Agree Q (x >>= f) (y >>= g) := by
  intro c hc d hd
  obtain ⟨a, ha, hc⟩ := Option.bind_eq_some_iff.1 hc
  obtain ⟨b, hb, hd⟩ := Option.bind_eq_some_iff.1 hd
  exact hfg a b (h a ha b hb) c hc d hd

theorem Agree.same (x : Option α) : Agree Eq x x :=
  fun _ ha _ hb => Option.some.inj (ha.symm.trans hb)

/-- What comes first is the same in both. -/
theorem Agree.bind_same (x : Option α) {f : α → Option γ} {g : α → Option δ}
    (hfg : ∀ a, Agree Q (f a) (g a)) : Agree Q (x >>= f) (x >>= g) :=
  (Agree.same x).bind fun a _ hab => hab ▸ hfg a

theorem Agree.map {x : Option α} {y : Option β} {f : α → γ} {g : β → δ} (h : Agree P x y)
    (hfg : ∀ a b, P a b → Q (f a) (g b)) : Agree Q (x.map f) (y.map g) := by
  intro c hc d hd
  obtain ⟨a, ha, rfl⟩ := Option.map_eq_some_iff.1 hc
  obtain ⟨b, hb, rfl⟩ := Option.map_eq_some_iff.1 hd
  exact hfg a b (h a ha b hb)

end

/-! ## Entries of the same keys -/

/-- Two entries of one key, with related values. -/
inductive Keyed {α β : Type} (R : α → β → Prop) : String × α → String × β → Prop where
  | mk {k : String} {a : α} {b : β} : R a b → Keyed R (k, a) (k, b)

namespace NameMap

variable {α β : Type} {R : α → β → Prop} {es : List (String × α)} {fs : List (String × β)}

theorem find_keyed (h : List.Forall₂ (Keyed R) es fs) (k : String) :
    Option.Rel R (find k es) (find k fs) := by
  induction h with
  | nil => exact .none
  | cons he _ ih =>
    obtain ⟨hab⟩ := he
    rw [find, find]
    split
    · exact .some hab
    · exact ih

theorem place_keyed (h : List.Forall₂ (Keyed R) es fs) (k : String) {a : α} {b : β} (hab : R a b) :
    List.Forall₂ (Keyed R) (place k a es) (place k b fs) := by
  induction h with
  | nil => exact .cons (.mk hab) .nil
  | cons he hes ih =>
    obtain ⟨hcd⟩ := he
    rw [place, place]
    split
    · exact .cons (.mk hab) (.cons (.mk hcd) hes)
    · split
      · exact .cons (.mk hab) hes
      · exact .cons (.mk hcd) ih

theorem ofList_keyed (h : List.Forall₂ (Keyed R) es fs) :
    List.Forall₂ (Keyed R) (ofList es).toList (ofList fs).toList := by
  have hfold : ∀ {m : NameMap α} {n : NameMap β}, List.Forall₂ (Keyed R) m.toList n.toList →
      List.Forall₂ (Keyed R) (es.foldl (fun m e => m.insert e.1 e.2) m).toList
        (fs.foldl (fun m e => m.insert e.1 e.2) n).toList := by
    induction h with
    | nil => exact id
    | cons he _ ih =>
      obtain ⟨hab⟩ := he
      exact fun hmn => ih (place_keyed hmn _ hab)
  exact hfold .nil

end NameMap

/-! ## Alike but for dates -/

/-- The trees of two dialects: the same but for dates and times, which are a
table of one entry in the first and a text in the second. -/
inductive Tree.Alike : Tree → Tree → Prop where
  | bool (b : Bool) : Alike (.bool b) (.bool b)
  | integer (i : Int) : Alike (.integer i) (.integer i)
  | float (x : Binary64) : Alike (.float x) (.float x)
  | text (s : String) : Alike (.text s) (.text s)
  | date (s : String) : Alike (.table [(Toml.datetimeKey, .text s)]) (.text s)
  | list {ts us : List Tree} : List.Forall₂ Alike ts us → Alike (.list ts) (.list us)
  | table {es fs : List (String × Tree)} : List.Forall₂ (Keyed Alike) es fs →
      Alike (.table es) (.table fs)

namespace Toml

/-- Items with alike values; how their tables came about may differ. -/
inductive Item.Alike : Item → Item → Prop where
  | value {t u : Tree} : t.Alike u → Alike (.value t) (.value u)
  | table {defined dotted defined' dotted' : Bool} {es fs : List (String × Item)} :
      List.Forall₂ (Keyed Alike) es fs →
      Alike (.table defined dotted es) (.table defined' dotted' fs)
  | tables {ss ss' : List (List (String × Item))} {es fs : List (String × Item)} :
      List.Forall₂ (List.Forall₂ (Keyed Alike)) ss ss' → List.Forall₂ (Keyed Alike) es fs →
      Alike (.tables ss es) (.tables ss' fs)

namespace Section

/-- Sections with the same keys and alike values. -/
def Alike (s s' : Section) : Prop := List.Forall₂ (Keyed Item.Alike) s s'

variable {s s' : Section}

theorem alike_nil : Alike [] [] := .nil

theorem Alike.find? (h : s.Alike s') (k : String) :
    Option.Rel Item.Alike (s.find? k) (s'.find? k) := NameMap.find_keyed h k

theorem Alike.put (h : s.Alike s') (k : String) {i i' : Item} (hi : i.Alike i') :
    Alike (s.put k i) (s'.put k i') := by
  induction h with
  | nil => exact .cons (.mk hi) .nil
  | cons he hs ih =>
    obtain ⟨hj⟩ := he
    rw [Section.put, Section.put]
    split
    · exact .cons (.mk hi) hs
    · exact .cons (.mk hj) ih

/-! ### Definitions -/

theorem descend_agree {define define' : Section → Option Section}
    (hdefine : ∀ t t', Alike t t' → Agree Alike (define t) (define' t')) :
    ∀ (ks : List String) {s s' : Section}, s.Alike s' →
      Agree Alike (s.descend define ks) (s'.descend define' ks)
  | [], s, s', h => hdefine s s' h
  | k :: ks, s, s', h => by
    have hk := h.find? k
    rw [descend, descend]
    generalize s.find? k = x at hk ⊢
    generalize s'.find? k = y at hk ⊢
    cases hk with
    | none => exact (descend_agree hdefine ks alike_nil).map fun _ _ ht => h.put k (.table ht)
    | some hi =>
      cases hi with
      | value _ => exact .none_left
      | table hes => exact (descend_agree hdefine ks hes).map fun _ _ ht => h.put k (.table ht)
      | tables hss hes =>
        exact (descend_agree hdefine ks hes).map fun _ _ ht => h.put k (.tables hss ht)

theorem openTable_agree (h : s.Alike s') (k : String) :
    Agree Alike (s.openTable k) (s'.openTable k) := by
  have hk := h.find? k
  rw [openTable, openTable]
  generalize s.find? k = x at hk ⊢
  generalize s'.find? k = y at hk ⊢
  cases hk with
  | none => exact .some (h.put k (.table alike_nil))
  | some hi =>
    cases hi with
    | value _ => exact .none_left
    | tables _ _ => exact .none_left
    | @table defined dotted defined' dotted' es fs hes =>
      split
      · contradiction
      · split
        · contradiction
        · rename_i h₁ _ _ h₂
          cases h₁
          cases h₂
          exact .some (h.put k (.table hes))
        · exact .none_right
      · exact .none_left

theorem openElement_agree (h : s.Alike s') (k : String) :
    Agree Alike (s.openElement k) (s'.openElement k) := by
  have hk := h.find? k
  rw [openElement, openElement]
  generalize s.find? k = x at hk ⊢
  generalize s'.find? k = y at hk ⊢
  cases hk with
  | none => exact .some (h.put k (.tables .nil alike_nil))
  | some hi =>
    cases hi with
    | value _ => exact .none_left
    | table _ => exact .none_left
    | tables hss hes =>
      exact .some (h.put k (.tables (List.rel_append hss (.cons hes .nil)) alike_nil))

theorem assign_agree {reach reach' : KeyReach} {t t' : Tree} (ht : t.Alike t') :
    ∀ (ks : List String) (k : String) {s s' : Section}, s.Alike s' →
      Agree Alike (s.assign reach t k ks) (s'.assign reach' t' k ks)
  | [], k, s, s', h => by
    have hk := h.find? k
    rw [assign, assign]
    generalize s.find? k = x at hk ⊢
    generalize s'.find? k = y at hk ⊢
    cases hk with
    | none => exact .some (h.put k (.value ht))
    | some _ => exact .none_left
  | k' :: ks, k, s, s', h => by
    have hk := h.find? k
    rw [assign, assign]
    generalize s.find? k = x at hk ⊢
    generalize s'.find? k = y at hk ⊢
    cases hk with
    | none => exact (assign_agree ht ks k' alike_nil).map fun _ _ hu => h.put k (.table hu)
    | some hi =>
      cases hi with
      | value _ => exact .none_left
      | tables hss hes =>
        dsimp only
        split
        · exact .none_left
        · exact (assign_agree ht ks k' hes).map fun _ _ hu => h.put k (.tables hss hu)
      | @table defined dotted defined' dotted' es fs hes =>
        have hinner : ∀ b b', Agree Alike
            ((assign reach t k' ks es).map fun u => s.put k (.table false b u))
            ((assign reach' t' k' ks fs).map fun u => s'.put k (.table false b' u)) := fun _ _ =>
          (assign_agree ht ks k' hes).map fun _ _ hu => h.put k (.table hu)
        cases defined with
        | true => exact .none_left
        | false =>
          cases defined' with
          | true => exact .none_right
          | false =>
            -- what is out of reach is refused, and else both go on in the same way
            cases reach <;> cases reach' <;> dsimp only <;> (repeat' split) <;>
              first | exact .none_left | exact .none_right | exact hinner _ _

/-! ### Trees -/

mutual
theorem itemTree_alike : ∀ {i j : Item}, i.Alike j → (itemTree i).Alike (itemTree j)
  | .value _, _, .value h => by
    rw [itemTree, itemTree]
    exact h
  | .table _ _ es, _, .table h => by
    rw [itemTree, itemTree]
    exact .table (NameMap.ofList_keyed (sectionTrees_alike h))
  | .tables ss es, _, .tables hss h => by
    rw [itemTree, itemTree]
    exact .list (List.rel_append (tableTrees_alike hss)
      (.cons (.table (NameMap.ofList_keyed (sectionTrees_alike h))) .nil))

theorem sectionTrees_alike : ∀ {s s' : Section}, s.Alike s' →
    List.Forall₂ (Keyed Tree.Alike) (sectionTrees s) (sectionTrees s')
  | [], _, .nil => by
    rw [sectionTrees]
    exact .nil
  | (k, i) :: s, (_, j) :: s', .cons (.mk hi) hs => by
    rw [sectionTrees, sectionTrees]
    exact .cons (.mk (itemTree_alike hi)) (sectionTrees_alike hs)

theorem tableTrees_alike : ∀ {ss ss' : List Section}, List.Forall₂ Alike ss ss' →
    List.Forall₂ Tree.Alike (tableTrees ss) (tableTrees ss')
  | [], _, .nil => by
    rw [tableTrees]
    exact .nil
  | s :: ss, _ :: _, .cons hs hss => by
    rw [tableTrees, tableTrees]
    exact .cons (.table (NameMap.ofList_keyed (sectionTrees_alike hs))) (tableTrees_alike hss)
end

theorem Alike.toTree (h : s.Alike s') : s.toTree.Alike s'.toTree :=
  .table (NameMap.ofList_keyed (sectionTrees_alike h))

end Section

/-! ## Reading -/

/-- Readings to related results that leave the same text. -/
def ReadAlike {α : Type} (R : α → α → Prop) (x y : Option (α × List Char)) : Prop :=
  Agree (fun a b => R a.1 b.1 ∧ a.2 = b.2) x y

theorem ReadAlike.bind {α γ : Type} {R : α → α → Prop} {Q : γ → γ → Prop}
    {x y : Option (α × List Char)} {f g : α × List Char → Option γ} (h : ReadAlike R x y)
    (hfg : ∀ a b l, R a b → Agree Q (f (a, l)) (g (b, l))) : Agree Q (x >>= f) (y >>= g) := by
  refine Agree.bind h ?_
  rintro ⟨a, l⟩ ⟨b, _⟩ ⟨hab, rfl⟩
  exact hfg a b l hab

/-- What dates and times become in the two dialects is alike. -/
def Dialect.Alike (d d' : Dialect) : Prop := ∀ x, (d.date x).Alike (d'.date x)

variable {d d' : Dialect}

theorem scalar?_agree (hd : d.Alike d') (l : List Char) :
    Agree Tree.Alike (scalar? d.date l) (scalar? d'.date l) := by
  rw [scalar?, scalar?]
  split
  · exact .some (.bool true)
  · split
    · exact .some (.bool false)
    · split
      · split
        · exact .some (.integer _)
        · exact .none_left
      · split
        · exact .some (.float _)
        · exact (Agree.same _).map fun x _ hx => hx ▸ hd x

-- At every step both readings are at the same place of the text: which way they
-- go on depends on the characters alone, and what a dialect does not allow ends
-- its reading.
mutual
theorem value?_agree (hd : d.Alike d') : ∀ (fuel levels : Nat) (l : List Char),
    ReadAlike Tree.Alike (value? d fuel levels l) (value? d' fuel levels l)
  | 0, _, _ => by
    rw [value?]
    exact .none_left
  | fuel + 1, levels, l => by
    rw [value?.eq_def, value?.eq_def]
    dsimp only
    split
    · exact .none_left
    · split
      · exact .none_left
      · exact (items?_agree hd fuel _ _ .nil).bind fun _ _ _ hts => .some ⟨.list hts, rfl⟩
    · split
      · exact .none_left
      · exact (braces?_agree hd fuel _ _ Section.alike_nil).bind fun _ _ _ hs =>
          .some ⟨hs.toTree, rfl⟩
    · split
      · exact (Agree.same _).map fun a _ ha => ha ▸ ⟨.text a.1, rfl⟩
      · exact (scalar?_agree hd _).map fun _ _ ht => ⟨ht, rfl⟩

theorem items?_agree (hd : d.Alike d') : ∀ (fuel levels : Nat) {done done' : List Tree}
    (l : List Char), List.Forall₂ Tree.Alike done done' → ReadAlike (List.Forall₂ Tree.Alike)
      (items? d fuel levels done l) (items? d' fuel levels done' l)
  | 0, _, _, _, _, _ => by
    rw [items?]
    exact .none_left
  | fuel + 1, levels, done, done', l, hdone => by
    rw [items?, items?]
    refine .bind_same _ fun l₁ => ?_
    split
    · exact .some ⟨List.rel_reverse hdone, rfl⟩
    · refine (value?_agree hd fuel levels _).bind fun t u l₂ ht => .bind_same _ fun l₃ => ?_
      have hmore : List.Forall₂ Tree.Alike (t :: done) (u :: done') := .cons ht hdone
      split
      · exact .some ⟨List.rel_reverse hmore, rfl⟩
      · exact items?_agree hd fuel levels _ hmore
      · exact .none_left

theorem braces?_agree (hd : d.Alike d') : ∀ (fuel levels : Nat) {s s' : Section} (l : List Char),
    s.Alike s' → ReadAlike Section.Alike (braces? d fuel levels s l) (braces? d' fuel levels s' l)
  | 0, _, _, _, _, _ => by
    rw [braces?]
    exact .none_left
  | fuel + 1, levels, s, s', l, hs => by
    rw [braces?, braces?]
    refine .bind_same _ fun l₁ => ?_
    split
    · exact .some ⟨hs, rfl⟩
    · refine .bind_same _ fun (before, last, l₂) => .bind_same _ fun l₃ => ?_
      split
      · refine .bind_same _ fun l₄ => (value?_agree hd fuel levels _).bind fun t u l₅ ht => ?_
        refine (Section.assign_agree ht _ _ hs).bind fun s₁ s₁' hs₁ => .bind_same _ fun l₆ => ?_
        split
        · exact .some ⟨hs₁, rfl⟩
        · exact braces?_agree hd fuel levels _ hs₁
        · exact .none_left
      · exact .none_left
end

theorem lines?_agree (hd : d.Alike d') : ∀ (fuel : Nat) (header : List String) {s s' : Section}
    (l : List Char), s.Alike s' →
    Agree Section.Alike (lines? d fuel header s l) (lines? d' fuel header s' l)
  | 0, _, _, _, _, _ => by
    rw [lines?]
    exact .none_left
  | fuel + 1, header, s, s', l, hs => by
    rw [lines?, lines?]
    refine .bind_same _ fun l₁ => ?_
    split
    · exact .some hs
    · refine .bind_same _ fun (before, last, l₂) => ?_
      dsimp only
      split
      · refine .bind_same _ fun l₃ => ?_
        refine (Section.descend_agree (fun _ _ h => Section.openElement_agree h last) before hs).bind
          fun s₁ s₁' hs₁ => ?_
        exact lines?_agree hd fuel _ _ hs₁
      · exact .none_left
    · refine .bind_same _ fun (before, last, l₂) => ?_
      dsimp only
      split
      · refine .bind_same _ fun l₃ => ?_
        refine (Section.descend_agree (fun _ _ h => Section.openTable_agree h last) before hs).bind
          fun s₁ s₁' hs₁ => ?_
        exact lines?_agree hd fuel _ _ hs₁
      · exact .none_left
    · refine .bind_same _ fun (before, last, l₂) => ?_
      dsimp only
      split
      · refine (value?_agree hd _ _ _).bind fun t u l₃ ht => .bind_same _ fun l₄ => ?_
        refine (Section.descend_agree (fun _ _ h => Section.assign_agree ht _ _ h) header hs).bind
          fun s₁ s₁' hs₁ => ?_
        exact lines?_agree hd fuel header _ hs₁
      · exact .none_left

/-- **Two readings of one document.** If both dialects read it, the trees are
alike. -/
theorem ofText?_agree (hd : d.Alike d') (s : String) :
    Agree Tree.Alike (ofText? d s) (ofText? d' s) :=
  (lines?_agree hd _ _ _ Section.alike_nil).map fun _ _ => Section.Alike.toTree

theorem typed_alike : Dialect.typed.Alike Layer.dialect := fun x => .date x.text

/-! ## The mark of the byte order -/

/-- No line starts with the mark. -/
theorem lines?_mark (fuel : Nat) (header : List String) (s : Section) (l : List Char) :
    lines? d fuel header s ('\ufeff' :: l) = none := by
  cases fuel with
  | zero => rw [lines?]
  | succ fuel =>
    have hfiller : skipFiller ('\ufeff' :: l) = some ('\ufeff' :: l) := rfl
    have hkey : key? ('\ufeff' :: l) = none := rfl
    rw [lines?, hfiller]
    simp [hkey]

/-- A document that can be read with a mark in front can be read without it. -/
theorem ofText?_of_mark {s : String} {t : Tree} (h : ofText? d ("\ufeff" ++ s) = some t) :
    ofText? d s = some t := by
  have hlist : ("\ufeff" ++ s).toList = '\ufeff' :: s.toList := by simp
  have hlines : (lines? d (s.toList.length + 1) [] [] s.toList).map Section.toTree = some t := by
    rw [ofText?, hlist] at h
    exact h
  rw [ofText?]
  split
  · rename_i r hr
    rw [hr, lines?_mark] at hlines
    cases hlines
  · exact hlines

end Toml

/-- **A file that both readers take.** The tree that is read by the types of the
fields and the layer are alike. -/
theorem Layer.alike_of_ofFile? {content : Bytes} {s : String} {t : Tree} {layer : Layer}
    (hs : Text.ofBytes? content = some s) (ht : Toml.ofText? .typed s = some t)
    (hlayer : ofFile? content = some layer) : t.Alike (.table layer) := by
  have hread : Toml.ofText? .typed (textOf content) = some t := by
    rcases textOf_of_text hs with rfl | rfl
    · exact ht
    · exact Toml.ofText?_of_mark ht
  exact Toml.ofText?_agree Toml.typed_alike _ t hread _ (ofText?_of_ofFile? hlayer)

end AccessPolicy
