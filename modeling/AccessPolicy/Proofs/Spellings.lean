/-
The spellings of a value: all the documents that say it.

A record is spelled as an object, with its fields in any order and anything
under other names beside them, or as the list of its fields. A field may be
left out if its value is the default; a value that may be absent is `null` if
it is. Sets are lists in any order, with repetitions, and maps are objects in
any order.

That every spelling is read to its value is proved in `Proofs.SpelledData`, and
that the encoding of a value is one of them in `Proofs.Encoding`.
-/
import AccessPolicy.Document.Encode
import AccessPolicy.Json.Format
import Mathlib.Data.List.Perm.Basic

namespace AccessPolicy

/-! ## Documents -/

/-- What the values of a document are in some representation of documents. -/
structure Forms (ν : Type) where
  IsNull : ν → Prop
  IsText : String → ν → Prop
  IsBool : Bool → ν → Prop
  IsList : List ν → ν → Prop
  IsObject : List (String × ν) → ν → Prop
  /-- Any value at all. -/
  IsValue : ν → Prop

/-- Trees as documents. -/
def Forms.tree : Forms Tree where
  IsNull t := t = .null
  IsText s t := t = .text s
  IsBool b t := t = .bool b
  IsList ts t := t = .list ts
  IsObject es t := t = .table es
  IsValue _ := True

namespace Json

/-- The draft of a text that does not break off. Numbers in it may be out of
range, and texts no sequences of characters. -/
inductive Draft.Whole : Draft → Prop where
  | null : Whole .null
  | bool (b : Bool) : Whole (.bool b)
  | number (value : Except ReadError Number) : Whole (.number value)
  | text (value : Except ReadError String) : Whole (.text value)
  | list {items : List Draft} : (∀ d ∈ items, Whole d) → Whole (.list items (.ok ()))
  | object {entries : List (Except ReadError String × Draft)} : (∀ e ∈ entries, Whole e.2) →
      Whole (.object entries (.ok ()))

end Json

/-- JSON texts as documents. -/
def Forms.draft : Forms Json.Draft where
  IsNull d := d = .null
  IsText s d := d = .text (.ok s)
  IsBool b d := d = .bool b
  IsList ds d := d = .list ds (.ok ())
  IsObject es d := d = .object (es.map fun e => (.ok e.1, e.2)) (.ok ())
  IsValue := Json.Draft.Whole

/-! ## Records -/

/-- How a field of a record is spelled, given the value it has. -/
structure FieldForm (ν : Type) where
  name : String
  /-- The field may be left out. -/
  Omittable : Prop
  Spells : ν → Prop

/-- The field is spelled by an object: by the only entry of its name, or by there being none. -/
structure FieldForm.In {ν : Type} (f : FieldForm ν) (es : List (String × ν)) : Prop where
  once : (es.map (·.1)).count f.name ≤ 1
  spelled : ∀ e ∈ es, e.1 = f.name → f.Spells e.2
  omitted : f.name ∉ es.map (·.1) → f.Omittable

section

variable {ν α : Type} (N : Forms ν)

/-- An object spells some fields. Under other names anything may stand. -/
def SpellsObject (fields : List (FieldForm ν)) (es : List (String × ν)) : Prop :=
  (∀ f ∈ fields, f.In es) ∧ ∀ e ∈ es, e.1 ∉ fields.map (·.name) → N.IsValue e.2

/-- A list spells some fields in their order. Those that may be left out may be
missing at the end. -/
def SpellsList : List (FieldForm ν) → List ν → Prop
  | fields, [] => ∀ f ∈ fields, f.Omittable
  | [], _ :: _ => False
  | f :: fields, x :: xs => f.Spells x ∧ SpellsList fields xs

/-- The value spells a record of some fields. -/
def SpellsRecord (fields : List (FieldForm ν)) (x : ν) : Prop :=
  (∃ es, N.IsObject es x ∧ SpellsObject N fields es) ∨ ∃ xs, N.IsList xs x ∧ SpellsList fields xs

/-- A field that has to be there. -/
def FieldForm.required (name : String) (Spells : α → ν → Prop) (a : α) : FieldForm ν where
  name := name
  Omittable := False
  Spells := Spells a

/-- A field that may be left out if it has the default value. -/
def FieldForm.withDefault (name : String) (Spells : α → ν → Prop) (default a : α) : FieldForm ν where
  name := name
  Omittable := a = default
  Spells := Spells a

/-! ## Parts -/

/-- A value that may be absent. -/
def SpellsOption (Spells : α → ν → Prop) : Option α → ν → Prop
  | none, x => N.IsNull x
  | some a, x => Spells a x

/-- The values of a list, in their order. -/
def SpellsItems (Spells : α → ν → Prop) (as : List α) (x : ν) : Prop :=
  ∃ xs, N.IsList xs x ∧ List.Forall₂ Spells as xs

/-- The names of a set, in any order and any number of times. -/
def SpellsNames (s : NameSet) (x : ν) : Prop :=
  ∃ names, SpellsItems N N.IsText names x ∧ ∀ n, n ∈ names ↔ n ∈ s

/-- The entries of a map, in any order. -/
def SpellsMap (Spells : α → ν → Prop) (m : NameMap α) (x : ν) : Prop :=
  ∃ es, N.IsObject es x ∧ (es.map (·.1)).Perm m.keys ∧
    ∀ e ∈ es, ∃ a, m.get? e.1 = some a ∧ Spells a e.2

/-! ## Data -/

/-- The fields of a required claim. -/
def Claim.forms (c : Claim) : List (FieldForm ν) := [
  .required "type" N.IsText c.type,
  .withDefault "values" (SpellsNames N) ∅ c.values]

/-- The value spells a required claim. -/
def Claim.Spells (c : Claim) : ν → Prop := SpellsRecord N (c.forms N)

/-- The fields of a rule. -/
def Rule.forms (r : Rule) : List (FieldForm ν) := [
  .withDefault "allow_roles" (SpellsNames N) ∅ r.allowRoles,
  .withDefault "allow_users" (SpellsNames N) ∅ r.allowUsers,
  .withDefault "deny_roles" (SpellsOption N (SpellsNames N)) none r.denyRoles,
  .withDefault "deny_users" (SpellsOption N (SpellsNames N)) none r.denyUsers,
  .withDefault "allow_claim" (SpellsOption N (Claim.Spells N)) none r.allowClaim,
  .withDefault "allow_claims" (SpellsOption N (SpellsItems N (Claim.Spells N))) none r.allowClaims]

/-- The value spells a rule. -/
def Rule.Spells (r : Rule) : ν → Prop := SpellsRecord N (r.forms N)

/-- The value spells named rules; a name without a rule has `null`. -/
def PolicySet.Spells (s : PolicySet) : ν → Prop :=
  SpellsMap N (SpellsOption N (Rule.Spells N)) s.entries

/-- The fields of a claim that is held. -/
def HeldClaim.forms (c : HeldClaim) : List (FieldForm ν) := [
  .required "type" N.IsText c.type,
  .required "value" N.IsText c.value]

/-- The value spells a claim that is held. -/
def HeldClaim.Spells (c : HeldClaim) : ν → Prop := SpellsRecord N (c.forms N)

/-- The fields of an identity. -/
def Identity.forms (i : Identity) : List (FieldForm ν) := [
  .withDefault "user_id" (SpellsOption N N.IsText) none i.userId,
  .withDefault "authenticated" N.IsBool false i.authenticated,
  .withDefault "roles" (SpellsNames N) ∅ i.roles,
  .withDefault "claims" (SpellsItems N (HeldClaim.Spells N)) [] i.claims]

/-- The value spells an identity. -/
def Identity.Spells (i : Identity) : ν → Prop := SpellsRecord N (i.forms N)

/-- The fields of the logging settings. -/
def Logging.forms (l : Logging) : List (FieldForm ν) := [
  .withDefault "level" N.IsText "warn" l.level,
  .withDefault "audit" N.IsBool true l.audit]

/-- The value spells logging settings. -/
def Logging.Spells (l : Logging) : ν → Prop := SpellsRecord N (l.forms N)

/-- The fields of the settings. -/
def Settings.forms (s : Settings) : List (FieldForm ν) := [
  .withDefault "locked" (SpellsNames N) ∅ s.locked,
  .withDefault "logging" (Logging.Spells N) {} s.logging,
  .withDefault "policies" (SpellsMap N (Rule.Spells N)) ∅ s.policies]

/-- The value spells settings. -/
def Settings.Spells (s : Settings) : ν → Prop := SpellsRecord N (s.forms N)

end

end AccessPolicy
