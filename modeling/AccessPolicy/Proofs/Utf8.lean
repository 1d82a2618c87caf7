/-
Text as bytes and back. The bytes of a text stand for just its characters
(`characters_toBytes`), so that they are read to the text again
(`ofBytes?_toBytes`); and bytes that stand for a text are read to it either way
(`ofBytesLossy_of_ofBytes?`). A text has no other bytes than its own, since no
character may be spelled in more bytes than it needs (`toBytes_of_ofBytes?`).
-/
import AccessPolicy.Text.Utf8

namespace AccessPolicy.Text

/-! ## Character by character -/

theorem length_follow_le : ∀ (k n : Nat) (bs : Bytes), (follow k n bs).2.length ≤ bs.length
  | 0, _, _ => Nat.le_refl _
  | _ + 1, _, [] => Nat.le_refl _
  | k + 1, n, b :: bs => by
    rw [follow]
    split
    · exact Nat.le_succ_of_le (length_follow_le k _ bs)
    · exact Nat.le_refl _

theorem length_character_le (b : UInt8) (bs : Bytes) : (character b bs).2.length ≤ bs.length := by
  unfold character
  split
  · exact Nat.le_refl _
  split
  · split
    · exact Nat.le_succ_of_le (length_follow_le _ _ _)
    · exact Nat.le_refl _
  · exact Nat.le_refl _

theorem charactersFrom_succ (n : Nat) (b : UInt8) (bs : Bytes) :
    charactersFrom (n + 1) (b :: bs) = (character b bs).1 :: charactersFrom n (character b bs).2 :=
  rfl

/-- Any number of steps will do that is not less than the number of bytes. -/
theorem charactersFrom_eq : ∀ {n m : Nat} {bs : Bytes}, bs.length ≤ n → bs.length ≤ m →
    charactersFrom n bs = charactersFrom m bs
  | n, m, [], _, _ => by cases n <;> cases m <;> rfl
  | n + 1, m + 1, b :: bs, hn, hm => by
    have hrest := length_character_le b bs
    rw [List.length_cons] at hn hm
    rw [charactersFrom_succ, charactersFrom_succ,
      charactersFrom_eq (n := n) (m := m) (by omega) (by omega)]

theorem characters_cons (b : UInt8) (bs : Bytes) :
    characters (b :: bs) = (character b bs).1 :: characters (character b bs).2 := by
  rw [characters, List.length_cons, charactersFrom_succ,
    charactersFrom_eq (length_character_le b bs) (Nat.le_refl _), characters]

/-! ## The bytes of a character -/

theorem toNat_ofNat_byte {m : Nat} (h : m ≤ 0xff) : (UInt8.ofNat m).toNat = m := by
  rw [UInt8.toNat_ofNat', Nat.mod_eq_of_lt (by omega)]

theorem follow_cons (k n : Nat) {m : Nat} (hlow : 0x80 ≤ m) (hhigh : m ≤ 0xbf) (bs : Bytes) :
    follow (k + 1) n (UInt8.ofNat m :: bs) = follow k (64 * n + (m - 0x80)) bs := by
  have hm := toNat_ofNat_byte (m := m) (by omega)
  have hbounds : 0x80 ≤ UInt8.ofNat m ∧ UInt8.ofNat m ≤ 0xbf := by
    rw [UInt8.le_iff_toNat_le, UInt8.le_iff_toNat_le, hm]
    exact ⟨hlow, hhigh⟩
  rw [follow, if_pos hbounds, hm]

/-- A first byte and a second one within its bounds. -/
theorem character_lead {m : Nat} (n : Nat) {l : Lead} (hm : 0x80 ≤ m) (hm' : m ≤ 0xff)
    (hlead : lead? m = some l) (hlow : l.low ≤ n) (hhigh : n ≤ l.high) (hbyte : n ≤ 0xff)
    (bs : Bytes) : character (UInt8.ofNat m) (UInt8.ofNat n :: bs) =
      follow l.more (64 * l.bits + (n - 0x80)) bs := by
  have hnot : ¬ UInt8.ofNat m < 0x80 := by
    rw [UInt8.lt_iff_toNat_lt, toNat_ofNat_byte hm']
    exact Nat.not_lt.2 hm
  simp only [character, if_neg hnot, toNat_ofNat_byte hm', hlead, toNat_ofNat_byte hbyte, hlow,
    hhigh, and_self, if_true]

theorem characters_of_character {b : UInt8} {bs bs' : Bytes} {n v : Nat}
    (h : character b bs = (some (Char.ofNat n), bs')) (hn : n = v) :
    characters (b :: bs) = some (Char.ofNat v) :: characters bs' := by
  subst hn
  rw [characters_cons, h]

theorem characters_one {v : Nat} (h : v ≤ 127) (bs : Bytes) :
    characters (UInt8.ofNat v :: bs) = some (Char.ofNat v) :: characters bs := by
  have hv := toNat_ofNat_byte (m := v) (by omega)
  have hlt : UInt8.ofNat v < 0x80 := by
    rw [UInt8.lt_iff_toNat_lt, hv]
    exact Nat.lt_succ_of_le h
  refine characters_of_character ?_ rfl
  unfold character
  rw [if_pos hlt, hv]

theorem characters_two {v : Nat} (hlow : 127 < v) (hhigh : v ≤ 2047) (bs : Bytes) :
    characters (UInt8.ofNat (v / 64 % 32 + 192) :: UInt8.ofNat (v % 64 + 128) :: bs) =
      some (Char.ofNat v) :: characters bs := by
  have hlead : lead? (v / 64 % 32 + 192) = some ⟨0x80, 0xbf, 0, v / 64⟩ := by
    rw [lead?, if_neg (by omega), if_pos (by omega), show v / 64 % 32 + 192 - 0xc0 = v / 64 by omega]
  refine characters_of_character (n := 64 * (v / 64) + (v % 64 + 128 - 0x80)) ?_ (by omega)
  exact character_lead (v % 64 + 128) (by omega) (by omega) hlead
    (show 0x80 ≤ _ by omega) (show _ ≤ 0xbf by omega) (by omega) bs

theorem characters_three {v : Nat} (hlow : 2047 < v) (hhigh : v ≤ 65535)
    (hvalid : v < 0xd800 ∨ 0xdfff < v) (bs : Bytes) :
    characters (UInt8.ofNat (v / 4096 % 16 + 224) :: UInt8.ofNat (v / 64 % 64 + 128) ::
      UInt8.ofNat (v % 64 + 128) :: bs) = some (Char.ofNat v) :: characters bs := by
  have hlead : lead? (v / 4096 % 16 + 224) = some
      ⟨if v / 4096 % 16 + 224 = 0xe0 then 0xa0 else 0x80,
        if v / 4096 % 16 + 224 = 0xed then 0x9f else 0xbf, 1, v / 4096⟩ := by
    rw [lead?, if_neg (by omega), if_neg (by omega), if_pos (by omega),
      show v / 4096 % 16 + 224 - 0xe0 = v / 4096 by omega]
  refine characters_of_character (n := 64 * (64 * (v / 4096) + (v / 64 % 64 + 128 - 0x80)) +
    (v % 64 + 128 - 0x80)) ?_ (by omega)
  refine (character_lead (v / 64 % 64 + 128) (by omega) (by omega) hlead ?_ ?_ (by omega)
    _).trans (follow_cons 0 _ (m := v % 64 + 128) (by omega) (by omega) bs)
  · show (if _ then _ else _) ≤ _
    split <;> omega
  · show _ ≤ (if _ then _ else _)
    split <;> omega

theorem characters_four {v : Nat} (hlow : 65535 < v) (hhigh : v < 0x110000) (bs : Bytes) :
    characters (UInt8.ofNat (v / 262144 % 8 + 240) :: UInt8.ofNat (v / 4096 % 64 + 128) ::
      UInt8.ofNat (v / 64 % 64 + 128) :: UInt8.ofNat (v % 64 + 128) :: bs) =
      some (Char.ofNat v) :: characters bs := by
  have hlead : lead? (v / 262144 % 8 + 240) = some
      ⟨if v / 262144 % 8 + 240 = 0xf0 then 0x90 else 0x80,
        if v / 262144 % 8 + 240 = 0xf4 then 0x8f else 0xbf, 2, v / 262144⟩ := by
    rw [lead?, if_neg (by omega), if_neg (by omega), if_neg (by omega), if_pos (by omega),
      show v / 262144 % 8 + 240 - 0xf0 = v / 262144 by omega]
  refine characters_of_character (n := 64 * (64 * (64 * (v / 262144) +
    (v / 4096 % 64 + 128 - 0x80)) + (v / 64 % 64 + 128 - 0x80)) + (v % 64 + 128 - 0x80)) ?_
    (by omega)
  refine ((character_lead (v / 4096 % 64 + 128) (by omega) (by omega) hlead ?_ ?_ (by omega)
    _).trans (follow_cons 1 _ (m := v / 64 % 64 + 128) (by omega) (by omega) _)).trans
    (follow_cons 0 _ (m := v % 64 + 128) (by omega) (by omega) bs)
  · show (if _ then _ else _) ≤ _
    split <;> omega
  · show _ ≤ (if _ then _ else _)
    split <;> omega

/-- The bytes of a character stand for that character, whatever follows. -/
theorem characters_utf8EncodeChar (c : Char) (bs : Bytes) :
    characters (String.utf8EncodeChar c ++ bs) = some c :: characters bs := by
  have hvalid : c.val.toNat < 0xd800 ∨ (0xdfff < c.val.toNat ∧ c.val.toNat < 0x110000) := c.valid
  have hc : Char.ofNat c.val.toNat = c := Char.ofNat_toNat c
  rw [String.utf8EncodeChar]
  generalize c.val.toNat = v at *
  subst hc
  split
  · exact characters_one ‹_› bs
  split
  · exact characters_two (by omega) ‹_› bs
  split
  · exact characters_three (by omega) ‹_› (by omega) bs
  · exact characters_four (by omega) (by omega) bs

/-! ## Texts -/

/-- The bytes of a text stand for its characters. -/
theorem characters_toBytes (s : String) : characters (toBytes s) = s.toList.map some := by
  rw [toBytes]
  induction s.toList with
  | nil => rfl
  | cons c l ih => rw [List.flatMap_cons, characters_utf8EncodeChar, ih, List.map_cons]

theorem mapM_id_eq_some_iff {α : Type} {l : List (Option α)} {l' : List α} :
    l.mapM id = some l' ↔ l = l'.map some := by
  induction l generalizing l' with
  | nil => cases l' <;> simp
  | cons x l ih =>
    rw [List.mapM_cons]
    cases x with
    | none => cases l' <;> simp
    | some a =>
      show ((l.mapM id).bind fun as => some (a :: as)) = some l' ↔ _
      cases l' <;> simp [Option.bind_eq_some_iff, ih, and_comm, and_assoc]

/-- Bytes stand for a text if they stand for its characters and nothing else. -/
theorem ofBytes?_eq_some_iff {bs : Bytes} {s : String} :
    ofBytes? bs = some s ↔ characters bs = s.toList.map some := by
  rw [ofBytes?, Option.map_eq_some_iff]
  simp only [mapM_id_eq_some_iff]
  constructor
  · rintro ⟨l, hl, rfl⟩
    rw [hl, String.toList_ofList]
  · intro h
    exact ⟨s.toList, h, String.ofList_toList⟩

/-- **A text is read back from its bytes.** -/
theorem ofBytes?_toBytes (s : String) : ofBytes? (toBytes s) = some s :=
  ofBytes?_eq_some_iff.2 (characters_toBytes s)

/-- Bytes that stand for a text have nothing to replace. -/
theorem ofBytesLossy_of_ofBytes? {bs : Bytes} {s : String} (h : ofBytes? bs = some s) :
    ofBytesLossy bs = s := by
  rw [ofBytesLossy, ofBytes?_eq_some_iff.1 h, List.map_map]
  exact (congrArg String.ofList (List.map_id _)).trans String.ofList_toList

/-! ## The text of bytes -/

theorem val_ofNat {n : Nat} (h : n.isValidChar) : (Char.ofNat n).val.toNat = n := by
  rw [Char.ofNat, dif_pos h]
  rfl

theorem ofNat_eq_byte {n : Nat} {b : UInt8} (h : n = b.toNat) : UInt8.ofNat n = b := by
  rw [h, UInt8.ofNat_toNat]

theorem follow_zero_eq_some {n : Nat} {bs rest : Bytes} {c : Char}
    (h : follow 0 n bs = (some c, rest)) : c = Char.ofNat n ∧ rest = bs := by
  rw [follow] at h
  obtain ⟨hc, hrest⟩ := Prod.mk.inj h
  exact ⟨(Option.some.inj hc).symm, hrest.symm⟩

theorem follow_succ_eq_some {k n : Nat} {bs rest : Bytes} {c : Char}
    (h : follow (k + 1) n bs = (some c, rest)) :
    ∃ b bs', bs = b :: bs' ∧ 0x80 ≤ b.toNat ∧ b.toNat ≤ 0xbf ∧
      follow k (64 * n + (b.toNat - 0x80)) bs' = (some c, rest) := by
  cases bs with
  | nil => simp [follow] at h
  | cons b bs =>
    rw [follow] at h
    split at h
    · rename_i hb
      simp only [UInt8.le_iff_toNat_le] at hb
      exact ⟨b, bs, rfl, hb.1, hb.2, h⟩
    · simp at h

/-- A byte that starts a character of several starts one of two, three or four. -/
theorem lead?_eq_some {b : Nat} {l : Lead} (h : lead? b = some l) :
    (0xc2 ≤ b ∧ b ≤ 0xdf ∧ l = ⟨0x80, 0xbf, 0, b - 0xc0⟩) ∨
    (0xe0 ≤ b ∧ b ≤ 0xef ∧
      l = ⟨if b = 0xe0 then 0xa0 else 0x80, if b = 0xed then 0x9f else 0xbf, 1, b - 0xe0⟩) ∨
    (0xf0 ≤ b ∧ b ≤ 0xf4 ∧
      l = ⟨if b = 0xf0 then 0x90 else 0x80, if b = 0xf4 then 0x8f else 0xbf, 2, b - 0xf0⟩) := by
  unfold lead? at h
  split at h
  · simp at h
  have hlow : 0xc2 ≤ b := by omega
  split at h
  · exact .inl ⟨hlow, ‹_›, (Option.some.inj h).symm⟩
  split at h
  · exact .inr (.inl ⟨by omega, ‹_›, (Option.some.inj h).symm⟩)
  split at h
  · exact .inr (.inr ⟨by omega, ‹_›, (Option.some.inj h).symm⟩)
  · simp at h

theorem encode_two (b₁ b₂ : UInt8) {n : Nat} (h : 127 < n) (h' : n ≤ 2047)
    (h₁ : n / 64 % 32 + 192 = b₁.toNat) (h₂ : n % 64 + 128 = b₂.toNat) :
    String.utf8EncodeChar (Char.ofNat n) = [b₁, b₂] := by
  have hval := val_ofNat (n := n) (.inl (by omega))
  unfold String.utf8EncodeChar
  simp only [hval]
  rw [if_neg (by omega), if_pos h', ofNat_eq_byte h₁, ofNat_eq_byte h₂]

theorem encode_three (b₁ b₂ b₃ : UInt8) {n : Nat} (hvalid : n.isValidChar) (h : 2047 < n)
    (h' : n ≤ 65535) (h₁ : n / 4096 % 16 + 224 = b₁.toNat) (h₂ : n / 64 % 64 + 128 = b₂.toNat)
    (h₃ : n % 64 + 128 = b₃.toNat) :
    String.utf8EncodeChar (Char.ofNat n) = [b₁, b₂, b₃] := by
  have hval := val_ofNat hvalid
  unfold String.utf8EncodeChar
  simp only [hval]
  rw [if_neg (by omega), if_neg (by omega), if_pos h', ofNat_eq_byte h₁, ofNat_eq_byte h₂,
    ofNat_eq_byte h₃]

theorem encode_four (b₁ b₂ b₃ b₄ : UInt8) {n : Nat} (h : 65535 < n) (h' : n < 0x110000)
    (h₁ : n / 262144 % 8 + 240 = b₁.toNat) (h₂ : n / 4096 % 64 + 128 = b₂.toNat)
    (h₃ : n / 64 % 64 + 128 = b₃.toNat) (h₄ : n % 64 + 128 = b₄.toNat) :
    String.utf8EncodeChar (Char.ofNat n) = [b₁, b₂, b₃, b₄] := by
  have hval := val_ofNat (n := n) (.inr ⟨by omega, h'⟩)
  unfold String.utf8EncodeChar
  simp only [hval]
  rw [if_neg (by omega), if_neg (by omega), if_neg (by omega), ofNat_eq_byte h₁, ofNat_eq_byte h₂,
    ofNat_eq_byte h₃, ofNat_eq_byte h₄]

/-- Bytes that are read as a character are the bytes of that character. -/
theorem utf8EncodeChar_of_character {b : UInt8} {bs rest : Bytes} {c : Char}
    (h : character b bs = (some c, rest)) : String.utf8EncodeChar c ++ rest = b :: bs := by
  unfold character at h
  split at h
  · rename_i hb
    have hb : b.toNat < 128 := UInt8.lt_iff_toNat_lt.1 hb
    have hval := val_ofNat (n := b.toNat) (.inl (by omega))
    obtain ⟨hc, hrest⟩ := follow_zero_eq_some h
    rw [hc, hrest]
    unfold String.utf8EncodeChar
    simp only [hval]
    rw [if_pos (by omega), UInt8.ofNat_toNat, List.singleton_append]
  split at h
  · rename_i l b₂ bs₂ hlead
    split at h
    · rename_i hbounds
      obtain ⟨hb, hb', rfl⟩ | ⟨hb, hb', rfl⟩ | ⟨hb, hb', rfl⟩ := lead?_eq_some hlead
      · obtain ⟨hc, hrest⟩ := follow_zero_eq_some h
        dsimp only at hbounds hc
        rw [hc, hrest, encode_two b b₂ (by omega) (by omega) (by omega) (by omega)]
        rfl
      · obtain ⟨b₃, bs₃, rfl, h₃, h₃', h⟩ := follow_succ_eq_some h
        obtain ⟨hc, hrest⟩ := follow_zero_eq_some h
        dsimp only at hbounds hc
        have hlow : 0x80 ≤ b₂.toNat ∧ (b.toNat = 0xe0 → 0xa0 ≤ b₂.toNat) := by
          split at hbounds <;> omega
        have hhigh : b₂.toNat ≤ 0xbf ∧ (b.toNat = 0xed → b₂.toNat ≤ 0x9f) := by
          split at hbounds <;> split at hbounds <;> omega
        have hvalid : (64 * (64 * (b.toNat - 0xe0) + (b₂.toNat - 0x80)) +
            (b₃.toNat - 0x80)).isValidChar := by
          unfold Nat.isValidChar
          omega
        rw [hc, hrest, encode_three b b₂ b₃ hvalid (by omega) (by omega) (by omega) (by omega)
          (by omega)]
        rfl
      · obtain ⟨b₃, bs₃, rfl, h₃, h₃', h⟩ := follow_succ_eq_some h
        obtain ⟨b₄, bs₄, rfl, h₄, h₄', h⟩ := follow_succ_eq_some h
        obtain ⟨hc, hrest⟩ := follow_zero_eq_some h
        dsimp only at hbounds hc
        have hlow : 0x80 ≤ b₂.toNat ∧ (b.toNat = 0xf0 → 0x90 ≤ b₂.toNat) := by
          split at hbounds <;> omega
        have hhigh : b₂.toNat ≤ 0xbf ∧ (b.toNat = 0xf4 → b₂.toNat ≤ 0x8f) := by
          split at hbounds <;> split at hbounds <;> omega
        rw [hc, hrest, encode_four b b₂ b₃ b₄ (by omega) (by omega) (by omega) (by omega) (by omega)
          (by omega)]
        rfl
    · simp at h
  · simp at h

theorem flatMap_of_characters {l : List Char} {bs : Bytes} (h : characters bs = l.map some) :
    l.flatMap String.utf8EncodeChar = bs := by
  induction l generalizing bs with
  | nil =>
    cases bs with
    | nil => rfl
    | cons b bs => simp [characters_cons] at h
  | cons c l ih =>
    cases bs with
    | nil => simp [characters, charactersFrom] at h
    | cons b bs =>
      rw [characters_cons] at h
      obtain ⟨hc, hrest⟩ := List.cons.inj h
      have hchar : character b bs = (some c, (character b bs).2) := Prod.ext hc rfl
      rw [List.flatMap_cons, ih hrest, utf8EncodeChar_of_character hchar]

/-- **Bytes that stand for a text are the bytes of that text.** -/
theorem toBytes_of_ofBytes? {bs : Bytes} {s : String} (h : ofBytes? bs = some s) :
    toBytes s = bs :=
  flatMap_of_characters (ofBytes?_eq_some_iff.1 h)

end AccessPolicy.Text
