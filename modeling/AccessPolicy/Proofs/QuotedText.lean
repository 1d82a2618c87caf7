/-
Quoted text can be read back, so a text has one quoted form only.

The reader goes through the characters once and only has to know where it
stands (`Reading`): a backslash opens an escape, and the digits of a code point
run up to a closing brace. Each character of the text is read back from the way
it is quoted (`unquote?_quotedChar`), whatever follows it.
-/
import AccessPolicy.Number.Reading
import AccessPolicy.Text.Quoted

namespace AccessPolicy.Text

/-- Where the reading of a quoted text stands. -/
inductive Reading where
  /-- Between two characters of the text. -/
  | between
  /-- After a backslash. -/
  | escape
  /-- Among the digits of a code point, after those of the number. -/
  | codePoint (n : Nat)

/-- The text that was quoted, read from what stands between the quotes. -/
def unquote? : Reading → List Char → Option (List Char)
  | .between, [] => some []
  | .between, '\\' :: l => unquote? .escape l
  | .between, c :: l => (unquote? .between l).map (c :: ·)
  | .escape, '0' :: l => (unquote? .between l).map ('\x00' :: ·)
  | .escape, 't' :: l => (unquote? .between l).map ('\t' :: ·)
  | .escape, 'n' :: l => (unquote? .between l).map ('\n' :: ·)
  | .escape, 'r' :: l => (unquote? .between l).map ('\r' :: ·)
  | .escape, '"' :: l => (unquote? .between l).map ('"' :: ·)
  | .escape, '\\' :: l => (unquote? .between l).map ('\\' :: ·)
  | .escape, 'u' :: '\x7b' :: l => unquote? (.codePoint 0) l
  | .codePoint n, '\x7d' :: l => (unquote? .between l).map (Char.ofNat n :: ·)
  | .codePoint n, c :: l =>
    match Number.digitValue? 16 c with
    | some d => unquote? (.codePoint (16 * n + d)) l
    | none => none
  | _, _ => none

/-! ## Code points -/

theorem digitValue?_digitChar {d : Nat} (h : d < 16) :
    Number.digitValue? 16 (Nat.digitChar d) = some d := by
  have hdigits : ∀ d < 16, Number.digitValue? 16 (Nat.digitChar d) = some d := by decide
  exact hdigits d h

theorem digitChar_ne_brace {d : Nat} (h : d < 16) : Nat.digitChar d ≠ '\x7d' := by
  have hdigits : ∀ d < 16, Nat.digitChar d ≠ '\x7d' := by decide
  exact hdigits d h

theorem unquote?_digit (n : Nat) {d : Nat} (h : d < 16) (l : List Char) :
    unquote? (.codePoint n) (Nat.digitChar d :: l) = unquote? (.codePoint (16 * n + d)) l := by
  rw [unquote?.eq_def]
  simp [digitChar_ne_brace h, digitValue?_digitChar h]

/-- The digits of a number are read as the number. -/
theorem unquote?_hexDigits (n : Nat) (l : List Char) :
    unquote? (.codePoint 0) (hexDigits n ++ l) = unquote? (.codePoint n) l := by
  induction n using Nat.strongRecOn generalizing l with
  | ind n ih =>
    rw [hexDigits, Nat.toDigits_eq_if (by decide)]
    split
    · rename_i hn
      exact (unquote?_digit 0 hn l).trans (by rw [Nat.mul_zero, Nat.zero_add])
    · rename_i hn
      have hless : n / 16 < n := by omega
      have hdigit : n % 16 < 16 := Nat.mod_lt _ (by decide)
      rw [List.append_assoc]
      refine (ih (n / 16) hless _).trans ?_
      rw [List.singleton_append, unquote?_digit _ hdigit, Nat.div_add_mod]

/-! ## Characters -/

/-- A character is quoted by an escape that is read as the character, or it
stands for itself. -/
theorem unquote?_quotedChar (c : Char) (l : List Char) :
    unquote? .between (quotedChar c ++ l) = (unquote? .between l).map (c :: ·) := by
  rw [quotedChar]
  -- Six characters have a letter of their own.
  iterate 6
    split
    · rename_i hc
      rw [hc]
      rfl
  rename_i hslash
  split
  · have hdigits := unquote?_hexDigits c.toNat ('\x7d' :: l)
    rw [codePointEscape, List.append_assoc, List.append_assoc]
    refine hdigits.trans ?_
    rw [unquote?, Char.ofNat_toNat]
  · rw [List.singleton_append, unquote?]
    exact hslash

theorem unquote?_flatMap (l : List Char) : unquote? .between (l.flatMap quotedChar) = some l := by
  induction l with
  | nil => rfl
  | cons c l ih => rw [List.flatMap_cons, unquote?_quotedChar, ih, Option.map_some]

/-! ## Texts between others -/

/-- What stands between an opening and a closing text. -/
def between? (opening closing s : String) : Option String :=
  if opening.toList.isPrefixOf s.toList && closing.toList.isSuffixOf s.toList then
    some (String.ofList
      ((s.toList.drop opening.length).take (s.length - opening.length - closing.length)))
  else none

theorem between?_append (opening s closing : String) :
    between? opening closing (opening ++ s ++ closing) = some s := by
  have hlist : (opening ++ s ++ closing).toList =
      opening.toList ++ (s.toList ++ closing.toList) := by
    rw [String.toList_append, String.toList_append, List.append_assoc]
  have hopening : opening.toList.isPrefixOf (opening ++ s ++ closing).toList = true := by
    rw [List.isPrefixOf_iff_prefix, hlist]
    exact List.prefix_append ..
  have hclosing : closing.toList.isSuffixOf (opening ++ s ++ closing).toList = true := by
    rw [List.isSuffixOf_iff_suffix, String.toList_append]
    exact List.suffix_append ..
  have hlength : (opening ++ s ++ closing).length - opening.length - closing.length = s.length := by
    rw [String.length_append, String.length_append]
    omega
  rw [between?, hopening, hclosing, hlength, hlist, ← String.length_toList (s := opening),
    List.drop_left, ← String.length_toList (s := s), List.take_left, String.ofList_toList]
  rfl

theorem between?_eq_none {opening s : String} (closing : String)
    (h : ¬ opening.toList <+: s.toList) : between? opening closing s = none := by
  rw [between?, if_neg]
  rw [Bool.and_eq_true, List.isPrefixOf_iff_prefix]
  exact fun hboth => h hboth.1

/-- An optional text, read back from how it is written. -/
def unquoteOption? (s : String) : Option (Option String) :=
  if s = "None" then some none
  else (between? "Some(\"" "\")" s).bind fun quoted =>
    (unquote? .between quoted.toList).map fun l => some (String.ofList l)

theorem unquoteOption?_quoteOption (user : Option String) :
    unquoteOption? (quoteOption user) = some user := by
  cases user with
  | none => rfl
  | some s =>
    have hparts : quoteOption (some s) =
        "Some(\"" ++ String.ofList (s.toList.flatMap quotedChar) ++ "\")" := by
      rw [← String.toList_inj]
      simp [quoteOption, quote]
    have hsome : quoteOption (some s) ≠ "None" := by
      intro h
      rw [hparts, ← String.toList_inj] at h
      exact absurd h (by simp)
    rw [unquoteOption?, if_neg hsome, hparts, between?_append, Option.bind_some,
      String.toList_ofList, unquote?_flatMap, Option.map_some, String.ofList_toList]

end AccessPolicy.Text
