/-
Taking data out of documents, whatever their notation.

A `Format` says what a notation makes of a value: which values are texts,
which are lists, and so on. On top of it stand the readings that all
notations share: sets of names, optional values, lists, maps, and records,
which are written as a table of their fields or as the list of their values.
-/
import AccessPolicy.Document.Problem
import AccessPolicy.Names.Map

namespace AccessPolicy

/-- The elements of a list, and the error that ends it early. -/
structure Items (ν : Type) where
  list : List ν
  ending : Except ReadError Unit := .ok ()

/-- The entries of a table, and the error that ends it early. -/
structure Entries (ν : Type) where
  list : List (Except ReadError String × ν)
  ending : Except ReadError Unit := .ok ()

/-- What a notation makes of a value. -/
structure Format (ν : Type) where
  /-- Whether the value says that there is none. -/
  isNull : ν → Bool
  text : ν → Except ReadError String
  bool : ν → Except ReadError Bool
  list : ν → Except ReadError (Items ν)
  table : ν → Except ReadError (Entries ν)
  /-- The value of a record of the named kind: a list or a table. -/
  record : String → ν → Except ReadError (Items ν ⊕ Entries ν)
  /-- What passing over a value brings to light. -/
  pass : ν → Except ReadError Unit
  /-- What is wrong with elements beyond the last field of a record: their
  number in all, and those beyond. -/
  beyond : Nat → Items ν → Except ReadError Unit

/-- A field of a record that is being read into a `σ`. -/
structure Field (ν σ : Type) where
  name : String
  /-- Whether there is no value to fall back on. -/
  required : Bool := false
  /-- Takes the value of the field in. -/
  read : ν → σ → Except ReadError σ

namespace Format

variable {ν σ α : Type}

/-- Reads the elements of a list in order. -/
def readItems (read : ν → Except ReadError α) (items : Items ν) : Except ReadError (List α) := do
  let values ← items.list.mapM read
  items.ending
  return values

/-- Reads a list. -/
def readList (F : Format ν) (read : ν → Except ReadError α) (x : ν) :
    Except ReadError (List α) := do
  readItems read (← F.list x)

/-- Reads a set of names: a list of texts in any order, repetitions allowed. -/
def readNames (F : Format ν) (x : ν) : Except ReadError NameSet := do
  return .ofList (← F.readList F.text x)

/-- Reads a value that may be absent. -/
def readOption (F : Format ν) (read : ν → Except ReadError α) (x : ν) :
    Except ReadError (Option α) :=
  if F.isNull x then .ok none else some <$> read x

/-- Takes the entries of a table into a map; of two under one key the later counts. -/
def readEntries (read : ν → Except ReadError α) (entries : Entries ν) :
    Except ReadError (NameMap α) := do
  let m ← entries.list.foldlM (fun (m : NameMap α) e => do
    let key ← e.1
    return m.insert key (← read e.2)) ∅
  entries.ending
  return m

/-- Reads a map: a table with any keys. -/
def readMap (F : Format ν) (read : ν → Except ReadError α) (x : ν) :
    Except ReadError (NameMap α) := do
  readEntries read (← F.table x)

/-! ## Records -/

/-- Takes an entry of a table into a record that is being read, and notes which
field was there. A field may be there once only; entries that are no fields are
passed over. -/
def takeField (F : Format ν) (fields : List (Field ν σ)) :
    σ × List String → Except ReadError String × ν → Except ReadError (σ × List String)
  | (state, seen), e => do
    let key ← e.1
    match fields.find? (·.name == key) with
    | none => do
      F.pass e.2
      return (state, seen)
    | some field =>
      if seen.contains key then throw (.data (.duplicate key))
      return (← field.read e.2 state, key :: seen)

/-- Reads the fields of a record from a table, in the order of the table, and
notes which were there. -/
def readFields (F : Format ν) (fields : List (Field ν σ)) (init : σ) (entries : Entries ν) :
    Except ReadError (σ × List String) := do
  let result ← entries.list.foldlM (F.takeField fields) (init, [])
  entries.ending
  return result

/-- The first field that is required and was not there. -/
def missing? (fields : List (Field ν σ)) (seen : List String) : Option String :=
  (fields.find? fun f => f.required && !seen.contains f.name).map (·.name)

/-- Reads the fields of a record from the list of their values. Fields at the
end may be left out, unless they are required. -/
def readPositions (F : Format ν) (name : String) (arity total : Nat) :
    List (Field ν σ) → σ → Items ν → Except ReadError σ
  | [], state, items => do
    F.beyond total items
    return state
  | field :: fields, state, ⟨x :: xs, ending⟩ => do
    F.readPositions name arity total fields (← field.read x state) ⟨xs, ending⟩
  | field :: fields, state, ⟨[], ending⟩ => do
    ending
    if (field :: fields).any (·.required) then
      throw (.data (.length total (.record name arity)))
    return state

/-- Reads a record of the named kind, starting from the defaults. -/
def readRecord (F : Format ν) (name : String) (fields : List (Field ν σ)) (init : σ) (x : ν) :
    Except ReadError σ := do
  match ← F.record name x with
  | .inl items => F.readPositions name fields.length items.list.length fields init items
  | .inr entries => do
    let (state, seen) ← F.readFields fields init entries
    match missing? fields seen with
    | some field => throw (.data (.missing field))
    | none => return state

end Format

end AccessPolicy
