/-
What becomes of a list of ignored files when the personal settings are to be
ignored. A list that is text keeps all its bytes; if no line of it names the
personal settings yet, such a line is added at its end, after an end for a last
line that has none (`keeps_updated`).

All this is said of bytes, since these are what is on disk. A list that is no
text is not kept: it counts as empty (`readList_of_no_text`).
-/
import AccessPolicy.Command.Init
import AccessPolicy.Proofs.DottedPaths
import AccessPolicy.Proofs.Utf8

namespace AccessPolicy.Command

/-! ## Lists as bytes -/

/-- The line that is added. -/
def ignoreEntry : String := Locations.personalName ++ "\n"

/-- The list is text, and a line of it names the personal settings. -/
def Lists (list : Bytes) : Prop :=
  ∃ text, Text.ofBytes? list = some text ∧
    ∃ line ∈ Text.splitAt '\n' text, Text.trim line = Locations.personalName

/-- There is a last line, and it has no end. -/
def Unfinished (list : Bytes) : Prop := list ≠ [] ∧ list.getLast? ≠ some 10

/-- A list is kept by another, which has no more than a line added to it. -/
structure Keeps (old new : Bytes) : Prop where
  begins : old <+: new
  lists : Lists new
  added : new = old ∨ (¬ Unfinished old ∧ new = old ++ Text.toBytes ignoreEntry) ∨
    (Unfinished old ∧ new = old ++ [10] ++ Text.toBytes ignoreEntry)
  unchanged : Lists old → new = old

/-- What a list is read as: one that is no text counts as empty. -/
def readList (list : Bytes) : String := (Text.ofBytes? list).getD ""

/-- What becomes of a list. -/
def updated (list : Bytes) : Bytes :=
  if isIgnored (readList list) then list else Text.toBytes (withIgnored (readList list))

theorem readList_of_no_text {list : Bytes} (h : Text.ofBytes? list = none) : readList list = "" := by
  rw [readList, h]
  rfl

/-! ## Ends of lines -/

theorem toBytes_append (a b : String) :
    Text.toBytes (a ++ b) = Text.toBytes a ++ Text.toBytes b := by
  simp [Text.toBytes]

theorem toNat_continuation (n : Nat) : 128 ≤ (UInt8.ofNat (n % 64 + 128)).toNat := by
  rw [Text.toNat_ofNat_byte (by omega)]
  exact Nat.le_add_left _ _

/-- Only the end of a line has bytes that end like one. -/
theorem getLast?_utf8EncodeChar (c : Char) :
    (String.utf8EncodeChar c).getLast? = some 10 ↔ c = '\n' := by
  constructor
  · intro h
    have hc : Char.ofNat c.val.toNat = c := Char.ofNat_toNat c
    unfold String.utf8EncodeChar at h
    generalize c.val.toNat = v at h hc
    have hcontinued : ∀ n, UInt8.ofNat (n % 64 + 128) ≠ 10 := by
      intro n heq
      have hle := toNat_continuation n
      rw [heq] at hle
      exact absurd hle (by decide)
    dsimp only at h
    split at h
    · have hbyte : UInt8.ofNat v = 10 := by simpa using h
      have hv : v = 10 := by
        rw [← Text.toNat_ofNat_byte (m := v) (by omega), hbyte]
        rfl
      rw [← hc, hv]
    · split at h
      · exact absurd (by simpa using h) (hcontinued v)
      · split at h
        · exact absurd (by simpa using h) (hcontinued v)
        · exact absurd (by simpa using h) (hcontinued v)
  · intro h
    rw [h]
    rfl

theorem getLast?_toBytes (s : String) :
    (Text.toBytes s).getLast? = some 10 ↔ s.toList.getLast? = some '\n' := by
  rw [Text.toBytes]
  cases hl : s.toList.getLast? with
  | none =>
    rw [List.getLast?_eq_none_iff.1 hl]
    simp
  | some c =>
    obtain ⟨l, hl⟩ := List.getLast?_eq_some_iff.1 hl
    have hne : String.utf8EncodeChar c ≠ [] := by
      intro hnil
      have hlength := String.length_utf8EncodeChar c
      rw [hnil] at hlength
      exact absurd c.utf8Size_pos (by simp [← hlength])
    rw [hl, List.flatMap_append, List.flatMap_singleton, List.getLast?_append,
      List.getLast?_eq_some_getLast hne, Option.some_or, ← List.getLast?_eq_some_getLast hne,
      getLast?_utf8EncodeChar]
    simp

theorem toBytes_eq_nil_iff {s : String} : Text.toBytes s = [] ↔ s = "" := by
  constructor
  · intro h
    have htext := Text.ofBytes?_toBytes s
    rw [h] at htext
    exact (Option.some.inj htext).symm
  · intro h
    rw [h]
    rfl

theorem unfinished_toBytes_iff {s : String} :
    Unfinished (Text.toBytes s) ↔ s ≠ "" ∧ s.toList.getLast? ≠ some '\n' := by
  rw [Unfinished, ne_eq, ne_eq, toBytes_eq_nil_iff, getLast?_toBytes]

theorem not_unfinished_toBytes_iff {s : String} :
    ¬ Unfinished (Text.toBytes s) ↔ s = "" ∨ s.toList.getLast? = some '\n' := by
  rw [unfinished_toBytes_iff, Classical.not_and_iff_not_or_not, ne_eq, ne_eq, Classical.not_not,
    Classical.not_not]

/-! ## Texts of lists -/

theorem lists_toBytes_iff {text : String} : Lists (Text.toBytes text) ↔ isIgnored text = true := by
  simp [Lists, isIgnored, Text.ofBytes?_toBytes]

theorem withIgnored_of_unfinished {text : String} (h : Unfinished (Text.toBytes text)) :
    withIgnored text = text ++ "\n" ++ ignoreEntry := by
  rw [unfinished_toBytes_iff] at h
  simp [withIgnored, ignoreEntry, h.1, h.2, String.append_assoc]

theorem withIgnored_of_not_unfinished {text : String} (h : ¬ Unfinished (Text.toBytes text)) :
    withIgnored text = text ++ ignoreEntry := by
  rcases not_unfinished_toBytes_iff.1 h with hempty | hlast
  · simp [withIgnored, ignoreEntry, hempty]
  · simp [withIgnored, ignoreEntry, hlast, String.append_assoc]

/-- A line that is added is a line of the list. -/
theorem mem_splitAt_entry (text : String) :
    Locations.personalName ∈ Text.splitAt '\n' (text ++ "\n" ++ ignoreEntry) := by
  have hentry : Text.splitAt '\n' ignoreEntry = [Locations.personalName, ""] := by decide
  rw [Text.splitAt_append rfl, hentry]
  simp

theorem mem_splitAt_withIgnored (text : String) :
    Locations.personalName ∈ Text.splitAt '\n' (withIgnored text) := by
  by_cases h : Unfinished (Text.toBytes text)
  · rw [withIgnored_of_unfinished h]
    exact mem_splitAt_entry text
  · rw [withIgnored_of_not_unfinished h]
    rcases not_unfinished_toBytes_iff.1 h with hempty | hlast
    · rw [hempty]
      decide
    · obtain ⟨l, hl⟩ := List.getLast?_eq_some_iff.1 hlast
      have htext : text = String.ofList l ++ "\n" := by
        rw [← String.ofList_toList (s := text), hl, String.ofList_append]
      rw [htext]
      exact mem_splitAt_entry _

theorem isIgnored_withIgnored (text : String) : isIgnored (withIgnored text) = true := by
  unfold isIgnored
  rw [List.any_eq_true]
  exact ⟨_, mem_splitAt_withIgnored text, by decide⟩

/-! ## Keeping lists -/

theorem isIgnored_readList_iff {list : Bytes} : isIgnored (readList list) = true ↔ Lists list := by
  rw [readList]
  cases h : Text.ofBytes? list with
  | none =>
    have hignored : ¬ isIgnored "" = true := by decide
    have hlists : ¬ Lists list := by simp [Lists, h]
    exact iff_of_false hignored hlists
  | some text => rw [← Text.toBytes_of_ofBytes? h, lists_toBytes_iff, Option.getD_some]

theorem updated_of_lists {list : Bytes} (h : Lists list) : updated list = list :=
  if_pos (isIgnored_readList_iff.2 h)

theorem updated_of_not_lists {list : Bytes} (h : ¬ Lists list) :
    updated list = Text.toBytes (withIgnored (readList list)) :=
  if_neg (mt isIgnored_readList_iff.1 h)

/-- **A list that is text is kept.** -/
theorem keeps_updated {list : Bytes} {text : String} (h : Text.ofBytes? list = some text) :
    Keeps list (updated list) := by
  have hread : readList list = text := by
    rw [readList, h]
    rfl
  have hlist : list = Text.toBytes text := (Text.toBytes_of_ofBytes? h).symm
  unfold updated
  rw [hread]
  split
  · rename_i hignored
    rw [← lists_toBytes_iff, ← hlist] at hignored
    exact ⟨List.prefix_rfl, hignored, .inl rfl, fun _ => rfl⟩
  · rename_i hignored
    have hlists : Lists (Text.toBytes (withIgnored text)) :=
      lists_toBytes_iff.2 (isIgnored_withIgnored text)
    have hunchanged : Lists list → Text.toBytes (withIgnored text) = list := by
      intro hlisted
      rw [hlist, lists_toBytes_iff] at hlisted
      exact absurd hlisted hignored
    by_cases hunfinished : Unfinished (Text.toBytes text)
    · have hnew : Text.toBytes (withIgnored text) = list ++ [10] ++ Text.toBytes ignoreEntry := by
        rw [withIgnored_of_unfinished hunfinished, toBytes_append, toBytes_append, ← hlist]
        rfl
      refine ⟨?_, hlists, .inr (.inr ⟨hlist ▸ hunfinished, hnew⟩), hunchanged⟩
      rw [hnew, List.append_assoc]
      exact List.prefix_append _ _
    · have hnew : Text.toBytes (withIgnored text) = list ++ Text.toBytes ignoreEntry := by
        rw [withIgnored_of_not_unfinished hunfinished, toBytes_append, ← hlist]
      refine ⟨?_, hlists, .inr (.inl ⟨hlist ▸ hunfinished, hnew⟩), hunchanged⟩
      rw [hnew]
      exact List.prefix_append _ _

/-- Of a list that is no text nothing is kept. -/
theorem updated_of_no_text {list : Bytes} (h : Text.ofBytes? list = none) :
    updated list = Text.toBytes ignoreEntry := by
  have hignored : ¬ isIgnored "" = true := by decide
  rw [updated, readList_of_no_text h, if_neg hignored]
  decide

theorem lists_updated (list : Bytes) : Lists (updated list) := by
  cases h : Text.ofBytes? list with
  | none =>
    rw [updated_of_no_text h, lists_toBytes_iff]
    decide
  | some text => exact (keeps_updated h).lists

end AccessPolicy.Command
