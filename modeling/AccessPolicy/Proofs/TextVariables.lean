/-
A variable that sets a text of the settings: the level of the log, or the type
of the claim that a policy requires (`Stack.load_withText`).

Variables are typed before anybody asks for a text. A word for a truth value or
a number becomes one, and where a text is wanted this is written out anew
(`Variables.shown`): `TRUE` comes out as `true`, and `007` as `7`. Other texts
stay as they are.
-/
import AccessPolicy.Proofs.SingleVariables

namespace AccessPolicy

/-! ## Texts of settings -/

/-- A text of the settings that a variable can set. -/
inductive TextField where
  | level
  /-- The type of the single claim that the policy requires. -/
  | claimType (policy : String)
deriving DecidableEq

namespace TextField

/-- Where the text stands. -/
def path : TextField → List String
  | level => ["logging", "level"]
  | claimType policy => ["policies", policy, "allow_claim", "type"]

/-- The name of the variable, after the marker and an underscore. -/
def suffix : TextField → String
  | level => "LOGGING__LEVEL"
  | claimType policy => "POLICIES__" ++ policy ++ "__ALLOW_CLAIM__TYPE"

/-- The name of the variable for the text. -/
def variableName (marker : String) (field : TextField) : String := marker ++ "_" ++ field.suffix

/-- The policy, if there is one, has a name that the name of a variable can tell. -/
def IsNamed : TextField → Prop
  | level => True
  | claimType policy => Variables.IsPolicyName policy ∧ policy ≠ ""

end TextField

/-- The text in the field, if the settings have the field. -/
def Settings.textAt? (c : Settings) : TextField → Option String
  | .level => some c.logging.level
  | .claimType policy => ((c.policies.get? policy).bind Rule.allowClaim).map Claim.type

/-! ## What becomes of a text -/

namespace Variables

/-- What a text field shows of a text that a variable gives to it. -/
def shown (value : String) : String :=
  if Text.lowerCase value = "true" then "true"
  else if Text.lowerCase value = "false" then "false"
  else match Number.int64? value with
    | some i => toString i
    | none =>
      match Number.float? value with
      | some x => x.toText
      | none => value

/-- The text reads as a truth value or as a number. -/
def IsTyped (value : String) : Prop :=
  Text.lowerCase value = "true" ∨ Text.lowerCase value = "false" ∨
    (Number.int64? value).isSome = true ∨ (Number.float? value).isSome = true

theorem shown_of_not_isTyped {value : String} (h : ¬ IsTyped value) : shown value = value := by
  simp only [IsTyped, not_or, Bool.not_eq_true, Option.isSome_eq_false_iff, Option.isNone_iff_eq_none] at h
  obtain ⟨htrue, hfalse, hinteger, hfloat⟩ := h
  rw [shown, if_neg htrue, if_neg hfalse, hinteger, hfloat]

theorem textOf_scalar (value : String) : Layers.textOf (scalar value) = .ok (shown value) := by
  rw [scalar, shown]
  split
  · rfl
  · split
    · rfl
    · cases Number.int64? value with
      | some i => rfl
      | none => cases Number.float? value <;> rfl

theorem isScalar_scalar (value : String) : ∀ es, scalar value ≠ .table es := by
  rcases scalar_cases value with ⟨b, h⟩ | ⟨i, h⟩ | ⟨x, h⟩ | h <;> simp [h]

end Variables

/-! ## Branches with a text -/

namespace Tree

variable {t v w : Tree}

theorem merge_branch_singleton (hv : ∀ es, v ≠ .table es) (k : String) (t : Tree) :
    t.merge (branch [k] v) = .table (NameMap.place k v t.entries) := by
  rw [merge_branch_cons, branch, merge_scalar hv]

/-- Of two values at one place the later counts. -/
theorem merge_branch_branch (hw : ∀ es, w ≠ .table es) : ∀ (path : List String) (t : Tree),
    (t.merge (branch path v)).merge (branch path w) = t.merge (branch path w)
  | [], t => by
    show (t.merge v).merge w = t.merge w
    rw [merge_scalar hw, merge_scalar hw]
  | k :: ks, t => by
    rw [merge_branch_cons, merge_branch_cons, merge_branch_cons, entries_table, NameMap.find_place,
      if_pos rfl, Option.getD_some, NameMap.place_place, merge_branch_branch hw ks]

end Tree

namespace Layers

/-- What is read of an entry can be read of its entries, if need be as of none. -/
theorem exists_reads_entries {α : Type} {read : Tree → Except ReadError α} {default a d : α}
    {key : String} {es : List (String × Tree)} (h : Format.EntryReads read default key es a)
    (hempty : read (.table []) = .ok d) :
    ∃ a, read (.table ((NameMap.find key es).getD .null).entries) = .ok a := by
  rw [Format.EntryReads] at h
  cases hu : NameMap.find key es with
  | none => exact ⟨d, hempty⟩
  | some u =>
    rw [hu] at h
    cases u with
    | table us => exact ⟨a, h⟩
    | _ => exact ⟨d, hempty⟩

theorem readClaim_table_iff {es : List (String × Tree)} (ho : (Tree.table es).Ordered) {c : Claim} :
    format.readClaim (.table es) = .ok c ↔ Format.ClaimReads format es c :=
  Format.readClaim_eq_ok_iff (fun _ => rfl) rfl ho.nodup

variable {t v : Tree} {text : String} (ho : t.Ordered) (hvo : v.Ordered)
  (hscalar : ∀ es, v ≠ .table es) (hv : format.text v = .ok text)

include ho hvo hscalar hv

/-! ### The level of the log -/

theorem level_of_readLogging {l : Logging}
    (h : format.readLogging (t.merge (.branch ["level"] v)) = .ok l) : l.level = text := by
  rw [Tree.merge_branch_singleton hscalar,
    readLogging_table_iff (ho.tableEntries.place "level" hvo)] at h
  have hlevel : format.text v = .ok l.level := Format.entryReads_place.1 h.level
  exact Except.ok.inj (hlevel.symm.trans hv)

theorem exists_readLogging {l : Logging} (h : format.readLogging (.table t.entries) = .ok l) :
    ∃ l, format.readLogging (t.merge (.branch ["level"] v)) = .ok l := by
  rw [readLogging_table_iff ho.tableEntries] at h
  refine ⟨{ l with level := text }, ?_⟩
  rw [Tree.merge_branch_singleton hscalar, readLogging_table_iff (ho.tableEntries.place "level" hvo)]
  exact ⟨Format.entryReads_place.2 hv, h.audit.place_of_ne (by decide)⟩

theorem level_of_readSettings {c : Settings}
    (h : format.readSettings (t.merge (.branch ["logging", "level"] v)) = .ok c) :
    c.logging.level = text := by
  have hpart := ho.tableEntries.part "logging"
  rw [Tree.merge_branch_cons, readSettings_table_iff
    (ho.tableEntries.place "logging" (hpart.merge (.branch ["level"] hvo)))] at h
  exact level_of_readLogging hpart hvo hscalar hv (Format.entryReads_place.1 h.logging)

theorem exists_readSettings_level {c : Settings} (h : format.readSettings (.table t.entries) = .ok c) :
    ∃ c, format.readSettings (t.merge (.branch ["logging", "level"] v)) = .ok c := by
  have hpart := ho.tableEntries.part "logging"
  rw [readSettings_table_iff ho.tableEntries] at h
  obtain ⟨l, hl⟩ := exists_reads_entries h.logging rfl
  obtain ⟨l', hl'⟩ := exists_readLogging hpart hvo hscalar hv hl
  refine ⟨{ c with logging := l' }, ?_⟩
  rw [Tree.merge_branch_cons, readSettings_table_iff
    (ho.tableEntries.place "logging" (hpart.merge (.branch ["level"] hvo)))]
  exact ⟨h.locked.place_of_ne (by decide), Format.entryReads_place.2 hl',
    h.policies.place_of_ne (by decide)⟩

/-! ### The type of a claim -/

theorem type_of_readClaim {c : Claim}
    (h : format.readClaim (t.merge (.branch ["type"] v)) = .ok c) : c.type = text := by
  rw [Tree.merge_branch_singleton hscalar, readClaim_table_iff (ho.tableEntries.place "type" hvo)] at h
  obtain ⟨w, hw, htype⟩ := h.type
  rw [NameMap.find_place, if_pos rfl] at hw
  cases hw
  exact Except.ok.inj (htype.symm.trans hv)

theorem exists_readClaim {values : NameSet}
    (h : Format.EntryReads format.readNames ∅ "values" t.entries values) :
    ∃ c, format.readClaim (t.merge (.branch ["type"] v)) = .ok c := by
  refine ⟨⟨text, values⟩, ?_⟩
  rw [Tree.merge_branch_singleton hscalar, readClaim_table_iff (ho.tableEntries.place "type" hvo)]
  exact ⟨⟨v, by rw [NameMap.find_place, if_pos rfl], hv⟩, h.place_of_ne (by decide)⟩

omit hvo hscalar hv in
/-- Of a claim that may be absent the values can be read, if need be as none. -/
theorem exists_readValues {o : Option Claim}
    (h : Format.EntryReads (format.readOption format.readClaim) none "allow_claim" t.entries o) :
    ∃ values, Format.EntryReads format.readNames ∅ "values"
      ((NameMap.find "allow_claim" t.entries).getD .null).entries values := by
  rw [Format.EntryReads] at h
  cases hu : NameMap.find "allow_claim" t.entries with
  | none => exact ⟨∅, rfl⟩
  | some u =>
    rw [hu] at h
    cases u with
    | table us =>
      obtain ⟨c, hc, -⟩ := (readOption_eq_ok_iff (by simp)).1 h
      exact ⟨c.values, ((readClaim_table_iff (ho.tableEntries.find hu)).1 hc).values⟩
    | _ => exact ⟨∅, rfl⟩

theorem type_of_readRule {r : Rule}
    (h : format.readRule (t.merge (.branch ["allow_claim", "type"] v)) = .ok r) :
    ∃ c, r.allowClaim = some c ∧ c.type = text := by
  have hpart := ho.tableEntries.part "allow_claim"
  rw [Tree.merge_branch_cons, readRule_table_iff
    (ho.tableEntries.place "allow_claim" (hpart.merge (.branch ["type"] hvo)))] at h
  have hclaim := Format.entryReads_place.1 h.allowClaim
  rw [readOption_eq_ok_iff (by simp [Tree.merge_branch_cons])] at hclaim
  obtain ⟨c, hc, hsome⟩ := hclaim
  exact ⟨c, hsome, type_of_readClaim hpart hvo hscalar hv hc⟩

theorem exists_readRule {r : Rule} (h : format.readRule (.table t.entries) = .ok r) :
    ∃ r, format.readRule (t.merge (.branch ["allow_claim", "type"] v)) = .ok r := by
  have hpart := ho.tableEntries.part "allow_claim"
  rw [readRule_table_iff ho.tableEntries] at h
  obtain ⟨values, hvalues⟩ := exists_readValues ho h.allowClaim
  obtain ⟨c, hc⟩ := exists_readClaim hpart hvo hscalar hv hvalues
  refine ⟨{ r with allowClaim := some c }, ?_⟩
  rw [Tree.merge_branch_cons, readRule_table_iff
    (ho.tableEntries.place "allow_claim" (hpart.merge (.branch ["type"] hvo)))]
  have hsome : format.readOption format.readClaim
      (((NameMap.find "allow_claim" t.entries).getD .null).merge (.branch ["type"] v)) =
        .ok (some c) :=
    (readOption_eq_ok_iff (by simp [Tree.merge_branch_cons])).2 ⟨c, hc, rfl⟩
  exact ⟨h.allowRoles.place_of_ne (by decide), h.allowUsers.place_of_ne (by decide),
    h.denyRoles.place_of_ne (by decide), h.denyUsers.place_of_ne (by decide),
    Format.entryReads_place.2 hsome, h.allowClaims.place_of_ne (by decide)⟩

variable {policy : String}

theorem type_of_readMap {m : NameMap Rule} (h : format.readMap format.readRule
      (t.merge (.branch [policy, "allow_claim", "type"] v)) = .ok m) :
    ∃ r c, m.get? policy = some r ∧ r.allowClaim = some c ∧ c.type = text := by
  have hpart := ho.tableEntries.part policy
  rw [Tree.merge_branch_cons, readMap_eq_ok_iff_get?
    (ho.tableEntries.place policy (hpart.merge (.branch ["allow_claim", "type"] hvo)))] at h
  have hentry := h policy
  rw [NameMap.find_place, if_pos rfl, Option.map_some, eq_comm, Option.map_eq_some_iff] at hentry
  obtain ⟨r, hget, hread⟩ := hentry
  obtain ⟨c, hclaim, htype⟩ := type_of_readRule hpart hvo hscalar hv hread.symm
  exact ⟨r, c, hget, hclaim, htype⟩

theorem exists_readMap {m : NameMap Rule}
    (h : format.readMap format.readRule (.table t.entries) = .ok m) :
    ∃ m, format.readMap format.readRule
      (t.merge (.branch [policy, "allow_claim", "type"] v)) = .ok m := by
  have hpart := ho.tableEntries.part policy
  obtain ⟨r, hr⟩ := exists_reads_entries (entryReads_of_readMap ho.tableEntries h policy) rfl
  obtain ⟨r', hr'⟩ := exists_readRule hpart hvo hscalar hv hr
  rw [Tree.merge_branch_cons]
  exact ⟨_, readMap_place ho.tableEntries (hpart.merge (.branch ["allow_claim", "type"] hvo)) h hr'⟩

theorem type_of_readSettings {c : Settings} (h : format.readSettings
      (t.merge (.branch ["policies", policy, "allow_claim", "type"] v)) = .ok c) :
    ∃ r claim, c.policies.get? policy = some r ∧ r.allowClaim = some claim ∧ claim.type = text := by
  have hpart := ho.tableEntries.part "policies"
  rw [Tree.merge_branch_cons, readSettings_table_iff (ho.tableEntries.place "policies"
    (hpart.merge (.branch [policy, "allow_claim", "type"] hvo)))] at h
  exact type_of_readMap hpart hvo hscalar hv (Format.entryReads_place.1 h.policies)

theorem exists_readSettings_type {c : Settings} (h : format.readSettings (.table t.entries) = .ok c) :
    ∃ c, format.readSettings
      (t.merge (.branch ["policies", policy, "allow_claim", "type"] v)) = .ok c := by
  have hpart := ho.tableEntries.part "policies"
  rw [readSettings_table_iff ho.tableEntries] at h
  obtain ⟨m, hm⟩ := exists_reads_entries h.policies rfl
  obtain ⟨m', hm'⟩ := exists_readMap hpart hvo hscalar hv hm
  refine ⟨{ c with policies := m' }, ?_⟩
  rw [Tree.merge_branch_cons, readSettings_table_iff (ho.tableEntries.place "policies"
    (hpart.merge (.branch [policy, "allow_claim", "type"] hvo)))]
  exact ⟨h.locked.place_of_ne (by decide), h.logging.place_of_ne (by decide),
    Format.entryReads_place.2 hm'⟩

/-! ### Either of them -/

variable {field : TextField}

theorem textAt?_of_readSettings {c : Settings}
    (h : format.readSettings (t.merge (.branch field.path v)) = .ok c) :
    c.textAt? field = some text := by
  cases field with
  | level => exact congrArg some (level_of_readSettings ho hvo hscalar hv h)
  | claimType policy =>
    obtain ⟨r, claim, hget, hclaim, htype⟩ := type_of_readSettings ho hvo hscalar hv h
    simp [Settings.textAt?, hget, hclaim, htype]

theorem exists_readSettings {c : Settings} (h : format.readSettings (.table t.entries) = .ok c) :
    ∃ c, format.readSettings (t.merge (.branch field.path v)) = .ok c := by
  cases field with
  | level => exact exists_readSettings_level ho hvo hscalar hv h
  | claimType policy => exact exists_readSettings_type ho hvo hscalar hv h

end Layers

/-! ## The variable -/

namespace TextField

open Variables

variable {field : TextField} {marker name : String}

theorem IsNamed.isWord (h : field.IsNamed) : ∀ w ∈ field.path, IsWord w.toList := by
  cases field with
  | level => decide +kernel
  | claimType policy =>
    simp only [path, List.forall_mem_cons]
    exact ⟨by decide +kernel, h.1.word, by decide +kernel, by decide +kernel, by simp⟩

theorem IsNamed.isPlain (h : field.IsNamed) : ∀ part ∈ field.path, KeyPath.isPlain part = true := by
  cases field with
  | level => decide
  | claimType policy =>
    simp only [path, List.forall_mem_cons]
    exact ⟨by decide, h.1.isPlain h.2, by decide, by decide, by simp⟩

theorem path_ne_nil (field : TextField) : field.path ≠ [] := by
  cases field <;> simp [path]

theorem IsNamed.splitAt_path (h : field.IsNamed) :
    Text.splitAt '.' (".".intercalate field.path) = field.path :=
  KeyPath.splitAt_intercalate_plain field.path_ne_nil h.isPlain

theorem IsNamed.isListKey_path (h : field.IsNamed) :
    isListKey (".".intercalate field.path) = false := by
  rw [isListKey, lastName, h.splitAt_path]
  cases field with
  | level => decide
  | claimType policy => exact (by decide : listFields.contains "type" = false)

theorem IsNamed.suffix_ascii (h : field.IsNamed) : Text.IsAscii field.suffix := by
  cases field with
  | level => decide +kernel
  | claimType policy =>
    have hpolicy : Text.IsAscii policy := fun c hc => isNameChar_ascii (h.1.chars c hc)
    have hopening : Text.IsAscii "POLICIES__" := by decide +kernel
    have hclosing : Text.IsAscii "__ALLOW_CLAIM__TYPE" := by decide +kernel
    exact (hopening.append hpolicy).append hclosing

theorem IsNamed.suffix_toLower (h : field.IsNamed) :
    field.suffix.toList.map Char.toLower = ("__".intercalate field.path).toList := by
  cases field with
  | level => decide +kernel
  | claimType policy =>
    have hlower : policy.toList.map Char.toLower = policy.toList :=
      (List.map_congr_left fun c hc => isNameChar_toLower (h.1.chars c hc)).trans (List.map_id _)
    have hopening : "POLICIES__".toList.map Char.toLower = "policies".toList ++ "__".toList := by decide
    have hclosing : "__ALLOW_CLAIM__TYPE".toList.map Char.toLower =
        "__".toList ++ ("allow_claim".toList ++ ("__".toList ++ "type".toList)) := by decide
    rw [suffix, path, String.intercalate_cons_cons, String.intercalate_cons_cons,
      String.intercalate_cons_cons, String.intercalate_singleton]
    simp only [String.toList_append, List.map_append, hlower, hopening, hclosing, List.append_assoc]

/-- The key of the variable, in whatever case its name is written. -/
theorem IsNamed.scalarKey?_eq (h : field.IsNamed)
    (hname : Text.lowerCase name = Text.lowerCase (field.variableName marker)) :
    scalarKey? marker name = some (".".intercalate field.path) := by
  have hlower : (Text.lowerCase name).toList =
      (Text.lowerCase marker).toList ++ '_' :: ("__".intercalate field.path).toList := by
    rw [hname, variableName, Text.lowerCase_append marker h.suffix_ascii, h.suffix_toLower]
  rw [scalarKey?, key?_of_words hlower h.isWord, Option.filter_some, h.isListKey_path]
  rfl

end TextField

/-! ## Loading -/

namespace Stack

open Variables

/-- **A text variable sets what its text shows.** If settings are loaded with
the variable, then they have in its field what is shown of its value, and that
is the value itself unless it reads as a truth value or a number. They are
loaded if they are without the variable, or with some other value of it. The
files may be any, and so may the other variables that turn off its way. -/
theorem load_withText (s : Stack) {before after : List Variable} {field : TextField}
    {name value : String} (hexplicit : s.explicit = none) (hfield : field.IsNamed)
    (hothers : Aside field.path s.marker (before ++ after))
    (hname : Text.lowerCase name = Text.lowerCase (field.variableName s.marker)) :
    (∀ c, load { s with environment := before ++ (name, value) :: after } = .ok c →
      c.textAt? field = some (shown value) ∧ (¬ IsTyped value → c.textAt? field = some value)) ∧
    ((∃ c, load { s with environment := before ++ after } = .ok c) ∨
        (∃ value' c, load { s with environment := before ++ (name, value') :: after } = .ok c) →
      ∃ c, load { s with environment := before ++ (name, value) :: after } = .ok c) := by
  have hkey := hfield.scalarKey?_eq hname
  have hscalar := isScalar_scalar value
  have hordered := (scalar_entries value).2
  have hshown : Layers.format.text (scalar value) = .ok (shown value) := textOf_scalar value
  refine ⟨fun c hload => ?_, ?_⟩
  · obtain ⟨t, ⟨ho, -⟩, -, hwith⟩ := exists_merge_branch_of_load hfield.splitAt_path hfield.isPlain
      hexplicit hkey hothers (.inr ⟨value, rfl⟩) hload
    rw [hwith, settings_eq_ok_iff] at hload
    have htext := Layers.textAt?_of_readSettings ho hordered hscalar hshown hload
    exact ⟨htext, fun htyped => by rw [htext, shown_of_not_isTyped htyped]⟩
  · rintro (⟨c, hload⟩ | ⟨value', c, hload⟩)
    · obtain ⟨t, ⟨ho, es, rfl⟩, hwithout, hwith⟩ := exists_merge_branch_of_load hfield.splitAt_path
        hfield.isPlain hexplicit hkey hothers (.inl rfl) hload
      rw [hwithout, settings_eq_ok_iff] at hload
      obtain ⟨c', hread⟩ := Layers.exists_readSettings ho hordered hscalar hshown hload
      exact ⟨c', by rw [hwith, settings_eq_ok_iff, hread]⟩
    · obtain ⟨t, ⟨ho, -⟩, -, hwith⟩ := exists_merge_branch_of_load hfield.splitAt_path hfield.isPlain
        hexplicit hkey hothers (.inr ⟨value', rfl⟩) hload
      obtain ⟨us, hus⟩ := Tree.exists_merge_branch field.path_ne_nil (scalar value') t
      have hmerged := ho.merge (.branch field.path (scalar_entries value').2)
      rw [hwith, settings_eq_ok_iff] at hload
      rw [hus] at hload hmerged
      obtain ⟨c', hread⟩ := Layers.exists_readSettings hmerged hordered hscalar hshown hload
      -- the value goes over the other one at the same place
      rw [← hus, Tree.merge_branch_branch hscalar] at hread
      exact ⟨c', by rw [hwith, settings_eq_ok_iff, hread]⟩

/-- A claim is required on top of what the file says of the policy. -/
theorem load_withText_staffed :
    load { staffed with environment := [("WARDEN_LOGGING__AUDIT", "no"), ("HOME", "/root")] } = .ok {
      locked := .ofList ["vault"], logging := { audit := false }
      policies := .ofList [("ops", { allowUsers := .ofList ["bob"] })] } ∧
    ∃ c, load { staffed with environment := [("WARDEN_LOGGING__AUDIT", "no"),
        ("Warden_Policies__Ops__Allow_Claim__Type", "dept"), ("HOME", "/root")] } = .ok c ∧
      c.textAt? (.claimType "ops") = some "dept" := by
  have hload : load { staffed with environment :=
      [("WARDEN_LOGGING__AUDIT", "no")] ++ [("HOME", "/root")] } = .ok {
        locked := .ofList ["vault"], logging := { audit := false }
        policies := .ofList [("ops", { allowUsers := .ofList ["bob"] })] } := by decide +kernel
  have hnamed : (TextField.claimType "ops").IsNamed :=
    ⟨⟨by simp [isNameChar], by decide +kernel⟩, by decide⟩
  have hothers : Aside (TextField.claimType "ops").path "WARDEN"
      ([("WARDEN_LOGGING__AUDIT", "no")] ++ [("HOME", "/root")]) := by decide +kernel
  have hname : Text.lowerCase "Warden_Policies__Ops__Allow_Claim__Type" =
      Text.lowerCase ((TextField.claimType "ops").variableName "WARDEN") := by decide +kernel
  have hplain : ¬ IsTyped "dept" := by
    rw [IsTyped]
    decide +kernel
  obtain ⟨htext, hloads⟩ := @load_withText staffed [("WARDEN_LOGGING__AUDIT", "no")]
    [("HOME", "/root")] _ _ "dept" rfl hnamed hothers hname
  obtain ⟨c, hc⟩ := hloads (.inl ⟨_, hload⟩)
  exact ⟨hload, c, hc, (htext c hc).2 hplain⟩

/-- Words and numbers come out in their own spelling. -/
theorem load_retyped :
    load {} = .ok {} ∧ (TextField.claimType "ops").IsNamed ∧
    (TextField.claimType "ops").variableName "WARDEN" = "WARDEN_POLICIES__ops__ALLOW_CLAIM__TYPE" ∧
    load { environment := [("WARDEN_POLICIES__ops__ALLOW_CLAIM__TYPE", "007")] } = .ok {
      policies := .ofList [("ops", { allowClaim := some (.anyValue "7") })] } ∧
    TextField.level.variableName "WARDEN" = "WARDEN_LOGGING__LEVEL" ∧
    load { environment := [("WARDEN_LOGGING__LEVEL", "TRUE")] } = .ok {
      logging := { level := "true" } } := by
  refine ⟨?_, ⟨⟨by simp [isNameChar], by decide +kernel⟩, by decide⟩, ?_, ?_, ?_, ?_⟩ <;>
    decide +kernel

end Stack

end AccessPolicy
