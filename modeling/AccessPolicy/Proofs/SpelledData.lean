/-
Every spelling of a value is read to that value (`Format.Follows.reads_settings`
and those for the data that settings are made of).

For each kind of record there is a list of its fields with the values they are
to have (`Claim.slots` and so on); that these make up the record is all that has
to be shown of a kind.
-/
import AccessPolicy.Proofs.SpelledRecords

namespace AccessPolicy

open Format

/-! ## Notations -/

namespace Json

theorem valueFormat_follows : valueFormat.Follows Forms.tree where
  null := by rintro _ rfl; rfl
  text := by rintro _ _ rfl; rfl
  bool := by rintro _ _ rfl; rfl
  list := by rintro _ _ rfl; rfl
  recordList := by rintro _ _ rfl _; rfl
  object := by rintro _ _ rfl; rfl
  recordObject := by rintro _ _ rfl _; rfl
  textPresent := by rintro _ _ rfl; rfl
  listPresent := by rintro _ _ rfl; rfl
  objectPresent := by rintro _ _ rfl; rfl
  value _ := rfl
  beyond _ := rfl

theorem textFormat_follows : textFormat.Follows Forms.draft where
  null := by rintro _ rfl; rfl
  text := by rintro _ _ rfl; rfl
  bool := by rintro _ _ rfl; rfl
  list := by rintro _ _ rfl; rfl
  recordList := by rintro _ _ rfl _; rfl
  object := by rintro _ _ rfl; rfl
  recordObject := by rintro _ _ rfl _; rfl
  textPresent := by rintro _ _ rfl; rfl
  listPresent := by rintro _ _ rfl; rfl
  objectPresent := by rintro _ _ rfl; rfl
  value h := by cases h <;> rfl
  beyond _ := rfl

end Json

/-! ## Reading -/

section

variable {ν : Type} (F : Format ν) (N : Forms ν)

/-- The fields of a required claim with their values. -/
def Claim.slots (c : Claim) : List (Slot ν Claim) := Format.slots F.claimFields (c.forms N) [
  fun d => { d with type := c.type }, fun d => { d with values := c.values }]

/-- The fields of a rule with their values. -/
def Rule.slots (r : Rule) : List (Slot ν Rule) := Format.slots F.ruleFields (r.forms N) [
  fun s => { s with allowRoles := r.allowRoles }, fun s => { s with allowUsers := r.allowUsers },
  fun s => { s with denyRoles := r.denyRoles }, fun s => { s with denyUsers := r.denyUsers },
  fun s => { s with allowClaim := r.allowClaim }, fun s => { s with allowClaims := r.allowClaims }]

/-- The fields of a held claim with their values. -/
def HeldClaim.slots (c : HeldClaim) : List (Slot ν HeldClaim) :=
  Format.slots F.heldClaimFields (c.forms N) [
    fun d => { d with type := c.type }, fun d => { d with value := c.value }]

/-- The fields of an identity with their values. -/
def Identity.slots (i : Identity) : List (Slot ν Identity) :=
  Format.slots F.identityFields (i.forms N) [
    fun j => { j with userId := i.userId }, fun j => { j with authenticated := i.authenticated },
    fun j => { j with roles := i.roles }, fun j => { j with claims := i.claims }]

/-- The fields of the logging settings with their values. -/
def Logging.slots (l : Logging) : List (Slot ν Logging) :=
  Format.slots F.loggingFields (l.forms N) [
    fun k => { k with level := l.level }, fun k => { k with audit := l.audit }]

/-- The fields of the settings with their values. -/
def Settings.slots (s : Settings) : List (Slot ν Settings) :=
  Format.slots F.settingsFields (s.forms N) [
    fun t => { t with locked := s.locked }, fun t => { t with logging := s.logging },
    fun t => { t with policies := s.policies }]

variable {F N} (hF : F.Follows N)

include hF

theorem Claim.fills (c : Claim) : Fills (c.slots F N) { type := "" } c where
  sound := by
    refine List.forall_mem_cons.2 ⟨?_, List.forall_mem_cons.2 ⟨?_, by simp [Format.slots]⟩⟩
    · exact Slot.sound_required (fun t (d : Claim) => { d with type := t })
        (fun _ _ => rfl) hF.text fun _ => rfl
    · exact Slot.sound_withDefault (fun v (d : Claim) => { d with values := v })
        (fun _ _ => rfl) (fun h => (hF.reads_names h).2) (fun _ => rfl) rfl rfl
  distinct := by
    show ["type", "values"].Nodup
    decide
  comm := by simp [Claim.slots, Format.slots, claimFields, Claim.forms]
  whole := by
    intro s hs
    obtain ⟨htype, hs⟩ := List.forall_mem_cons.1 hs
    obtain ⟨hvalues, -⟩ := List.forall_mem_cons.1 hs
    rw [← htype, ← hvalues]

theorem Format.Follows.reads_claim : Reads F F.readClaim (Claim.Spells N) := fun {c _} h =>
  ⟨hF.present_of_spellsRecord h, readRecord_of_spells hF (c.fills hF) h⟩

theorem Rule.fills (r : Rule) : Fills (r.slots F N) {} r where
  sound := by
    have hnames : ∀ {o : Option NameSet} {x : ν}, SpellsOption N (SpellsNames N) o x →
        F.readOption F.readNames x = .ok o := hF.readOption hF.reads_names
    refine List.forall_mem_cons.2 ⟨?_, List.forall_mem_cons.2 ⟨?_, List.forall_mem_cons.2 ⟨?_,
      List.forall_mem_cons.2 ⟨?_, List.forall_mem_cons.2 ⟨?_, List.forall_mem_cons.2 ⟨?_,
        by simp [Format.slots]⟩⟩⟩⟩⟩⟩
    · exact Slot.sound_withDefault (fun v (s : Rule) => { s with allowRoles := v })
        (fun _ _ => rfl) (fun h => (hF.reads_names h).2) (fun _ => rfl) rfl rfl
    · exact Slot.sound_withDefault (fun v (s : Rule) => { s with allowUsers := v })
        (fun _ _ => rfl) (fun h => (hF.reads_names h).2) (fun _ => rfl) rfl rfl
    · exact Slot.sound_withDefault (fun v (s : Rule) => { s with denyRoles := v })
        (fun _ _ => rfl) hnames (fun _ => rfl) rfl rfl
    · exact Slot.sound_withDefault (fun v (s : Rule) => { s with denyUsers := v })
        (fun _ _ => rfl) hnames (fun _ => rfl) rfl rfl
    · exact Slot.sound_withDefault (fun v (s : Rule) => { s with allowClaim := v })
        (fun _ _ => rfl) (hF.readOption hF.reads_claim) (fun _ => rfl) rfl rfl
    · exact Slot.sound_withDefault (fun v (s : Rule) => { s with allowClaims := v })
        (fun _ _ => rfl) (hF.readOption (hF.reads_items hF.reads_claim)) (fun _ => rfl) rfl rfl
  distinct := by
    show ["allow_roles", "allow_users", "deny_roles", "deny_users", "allow_claim",
      "allow_claims"].Nodup
    decide
  comm := by simp [Rule.slots, Format.slots, ruleFields, Rule.forms]
  whole := by
    intro s hs
    obtain ⟨h₁, hs⟩ := List.forall_mem_cons.1 hs
    obtain ⟨h₂, hs⟩ := List.forall_mem_cons.1 hs
    obtain ⟨h₃, hs⟩ := List.forall_mem_cons.1 hs
    obtain ⟨h₄, hs⟩ := List.forall_mem_cons.1 hs
    obtain ⟨h₅, hs⟩ := List.forall_mem_cons.1 hs
    obtain ⟨h₆, -⟩ := List.forall_mem_cons.1 hs
    rw [← h₁, ← h₂, ← h₃, ← h₄, ← h₅, ← h₆]

theorem Format.Follows.reads_rule : Reads F F.readRule (Rule.Spells N) := fun {r _} h =>
  ⟨hF.present_of_spellsRecord h, readRecord_of_spells hF (r.fills hF) h⟩

theorem Format.Follows.reads_policySet : Reads F F.readPolicySet (PolicySet.Spells N) := by
  intro s x h
  obtain ⟨hpresent, hread⟩ := hF.reads_map (F.readOption F.readRule)
    (hF.readOption hF.reads_rule) h
  refine ⟨hpresent, ?_⟩
  rw [readPolicySet, hread]
  rfl

theorem HeldClaim.fills (c : HeldClaim) : Fills (c.slots F N) ⟨"", ""⟩ c where
  sound := by
    refine List.forall_mem_cons.2 ⟨?_, List.forall_mem_cons.2 ⟨?_, by simp [Format.slots]⟩⟩
    · exact Slot.sound_required (fun t (d : HeldClaim) => { d with type := t })
        (fun _ _ => rfl) hF.text fun _ => rfl
    · exact Slot.sound_required (fun v (d : HeldClaim) => { d with value := v })
        (fun _ _ => rfl) hF.text fun _ => rfl
  distinct := by
    show ["type", "value"].Nodup
    decide
  comm := by simp [HeldClaim.slots, Format.slots, heldClaimFields, HeldClaim.forms]
  whole := by
    intro s hs
    obtain ⟨htype, hs⟩ := List.forall_mem_cons.1 hs
    obtain ⟨hvalue, -⟩ := List.forall_mem_cons.1 hs
    rw [← htype, ← hvalue]

theorem Format.Follows.reads_heldClaim : Reads F F.readHeldClaim (HeldClaim.Spells N) :=
  fun {c _} h => ⟨hF.present_of_spellsRecord h, readRecord_of_spells hF (c.fills hF) h⟩

theorem Identity.fills (i : Identity) : Fills (i.slots F N) {} i where
  sound := by
    refine List.forall_mem_cons.2 ⟨?_, List.forall_mem_cons.2 ⟨?_, List.forall_mem_cons.2 ⟨?_,
      List.forall_mem_cons.2 ⟨?_, by simp [Format.slots]⟩⟩⟩⟩
    · exact Slot.sound_withDefault (fun v (j : Identity) => { j with userId := v })
        (fun _ _ => rfl) (hF.readOption hF.reads_text) (fun _ => rfl) rfl rfl
    · exact Slot.sound_withDefault (fun v (j : Identity) => { j with authenticated := v })
        (fun _ _ => rfl) hF.bool (fun _ => rfl) rfl rfl
    · exact Slot.sound_withDefault (fun v (j : Identity) => { j with roles := v })
        (fun _ _ => rfl) (fun h => (hF.reads_names h).2) (fun _ => rfl) rfl rfl
    · exact Slot.sound_withDefault (fun v (j : Identity) => { j with claims := v })
        (fun _ _ => rfl) (fun h => (hF.reads_items hF.reads_heldClaim h).2) (fun _ => rfl) rfl rfl
  distinct := by
    show ["user_id", "authenticated", "roles", "claims"].Nodup
    decide
  comm := by simp [Identity.slots, Format.slots, identityFields, Identity.forms]
  whole := by
    intro s hs
    obtain ⟨h₁, hs⟩ := List.forall_mem_cons.1 hs
    obtain ⟨h₂, hs⟩ := List.forall_mem_cons.1 hs
    obtain ⟨h₃, hs⟩ := List.forall_mem_cons.1 hs
    obtain ⟨h₄, -⟩ := List.forall_mem_cons.1 hs
    rw [← h₁, ← h₂, ← h₃, ← h₄]

theorem Format.Follows.reads_identity : Reads F F.readIdentity (Identity.Spells N) :=
  fun {i _} h => ⟨hF.present_of_spellsRecord h, readRecord_of_spells hF (i.fills hF) h⟩

theorem Logging.fills (l : Logging) : Fills (l.slots F N) {} l where
  sound := by
    refine List.forall_mem_cons.2 ⟨?_, List.forall_mem_cons.2 ⟨?_, by simp [Format.slots]⟩⟩
    · exact Slot.sound_withDefault (fun v (k : Logging) => { k with level := v })
        (fun _ _ => rfl) hF.text (fun _ => rfl) rfl rfl
    · exact Slot.sound_withDefault (fun v (k : Logging) => { k with audit := v })
        (fun _ _ => rfl) hF.bool (fun _ => rfl) rfl rfl
  distinct := by
    show ["level", "audit"].Nodup
    decide
  comm := by simp [Logging.slots, Format.slots, loggingFields, Logging.forms]
  whole := by
    intro s hs
    obtain ⟨hlevel, hs⟩ := List.forall_mem_cons.1 hs
    obtain ⟨haudit, -⟩ := List.forall_mem_cons.1 hs
    rw [← hlevel, ← haudit]

theorem Format.Follows.reads_logging : Reads F F.readLogging (Logging.Spells N) :=
  fun {l _} h => ⟨hF.present_of_spellsRecord h, readRecord_of_spells hF (l.fills hF) h⟩

theorem Settings.fills (s : Settings) : Fills (s.slots F N) {} s where
  sound := by
    refine List.forall_mem_cons.2 ⟨?_, List.forall_mem_cons.2 ⟨?_, List.forall_mem_cons.2 ⟨?_,
      by simp [Format.slots]⟩⟩⟩
    · exact Slot.sound_withDefault (fun v (t : Settings) => { t with locked := v })
        (fun _ _ => rfl) (fun h => (hF.reads_names h).2) (fun _ => rfl) rfl rfl
    · exact Slot.sound_withDefault (fun v (t : Settings) => { t with logging := v })
        (fun _ _ => rfl) (fun h => (hF.reads_logging h).2) (fun _ => rfl) rfl rfl
    · exact Slot.sound_withDefault (fun v (t : Settings) => { t with policies := v })
        (fun _ _ => rfl) (fun h => (hF.reads_map F.readRule
          (fun h => (hF.reads_rule h).2) h).2) (fun _ => rfl) rfl rfl
  distinct := by
    show ["locked", "logging", "policies"].Nodup
    decide
  comm := by simp [Settings.slots, Format.slots, settingsFields, Settings.forms]
  whole := by
    intro t ht
    obtain ⟨h₁, ht⟩ := List.forall_mem_cons.1 ht
    obtain ⟨h₂, ht⟩ := List.forall_mem_cons.1 ht
    obtain ⟨h₃, -⟩ := List.forall_mem_cons.1 ht
    rw [← h₁, ← h₂, ← h₃]

theorem Format.Follows.reads_settings : Reads F F.readSettings (Settings.Spells N) :=
  fun {s _} h => ⟨hF.present_of_spellsRecord h, readRecord_of_spells hF (s.fills hF) h⟩

end

end AccessPolicy
