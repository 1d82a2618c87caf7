/-
Settings from several layers: defaults, the files of the user, of the project
and of this copy of the project, environment variables, and a file that is
named on purpose. A layer goes over those before it. In what order the entries
of one layer come is left open (`Orders`).

Reading a single file keeps to the types of the fields. Reading layers does
so only after merging, and then takes one kind of value for another.
-/
import AccessPolicy.Document.Encode
import AccessPolicy.Layers.Format
import AccessPolicy.Layers.Variables
import AccessPolicy.Text.Utf8
import AccessPolicy.Toml.Reader

namespace AccessPolicy

namespace Layer

/-- The most elements of a list: each takes 96 bytes, and all together take less
than half of what addresses can tell apart. -/
def maxElements : Nat := 0x7fffffffffffffff / 96

/-- The TOML of layers. Dates and times are texts. -/
def dialect : Toml.Dialect where
  reach := .undefined
  date d := .text d.text

mutual
/-- The value of a document as it is merged. Integers must fit into 64 bits. -/
def value? : Tree → Option Tree
  | .integer i => if Number.fitsInt64 i then some (.integer i) else none
  | .list items => (values? items).map .list
  | .table es => (entries? es).map .table
  | t => some t

/-- The values of a list. -/
def values? : List Tree → Option (List Tree)
  | [] => some []
  | t :: ts => do return (← value? t) :: (← values? ts)

/-- The entries of a table. -/
def entries? : List (String × Tree) → Option (List (String × Tree))
  | [] => some []
  | (key, t) :: es => do return (key, ← value? t) :: (← entries? es)
end

/-- The layer that a document makes up. -/
def ofTree? (t : Tree) : Option Layer :=
  match value? t with
  | some (.table es) => some es
  | _ => none

/-- The text of a file. Bytes that are no text are replaced, and a mark of the
byte order is no part of it. -/
def textOf : Bytes → String
  | 0xef :: 0xbb :: 0xbf :: bs => Text.ofBytesLossy bs
  | bs => Text.ofBytesLossy bs

/-- The layer that a file makes up. -/
def ofFile? (content : Bytes) : Option Layer := do
  ofTree? (← Toml.ofText? dialect (textOf content))

end Layer

/-- A file that is named on purpose, and has to be there. -/
inductive NamedFile where
  | missing
  | present (content : Bytes)
deriving DecidableEq

/-- The orders in which the entries of each source come when settings are loaded. -/
structure Orders where
  user : List String := []
  project : List String := []
  personal : List String := []
  /-- The names of the variables for single values, as these are collected. -/
  names : List String := []
  /-- The keys of single values, as these are merged in. -/
  scalars : List String := []
  /-- The paths of the lists that variables set. -/
  lists : List KeyPath := []
  explicit : List String := []
deriving DecidableEq

/-- Where settings come from. -/
structure Stack where
  user : Option Bytes := none
  project : Option Bytes := none
  personal : Option Bytes := none
  explicit : Option NamedFile := none
  /-- What the names of environment variables that count start with. -/
  marker : String := "WARDEN"
  environment : List Variables.Variable := []
  orders : Orders := {}
  /-- The most elements that there is room for in a list. -/
  room : Nat := Layer.maxElements
deriving DecidableEq

/-- Why settings cannot be loaded. -/
inductive LoadError where
  /-- A variable sets a list under a key that is no path. -/
  | badVariable (name : String)
  /-- A file is missing or cannot be read. -/
  | badFile
  /-- The merged layers are no settings. -/
  | badSettings
  /-- A key asks for a list that there is no room for. This is no error that is
  reported: the program stops there, and the loading does not come back. -/
  | noRoom
deriving DecidableEq

/-- The error, in words. -/
def LoadError.message : LoadError → String
  | badVariable name => "Invalid list override in " ++ name
  | badFile => "Failed to build configuration"
  | badSettings => "Failed to deserialize configuration"
  | noRoom => "capacity overflow"

/-- The error as it starts a line about it. What is wrong with a file or with
the settings follows a colon there. -/
def LoadError.opening : LoadError → String
  | badVariable name => (badVariable name).message
  | e => e.message ++ ":"

namespace Stack

/-- The layer of an optional file. -/
def fileLayer : Option Bytes → Option Layer
  | none => some []
  | some content => Layer.ofFile? content

/-- The layer of the file that is named on purpose. -/
def explicitLayer : Option NamedFile → Option Layer
  | none => some []
  | some .missing => none
  | some (.present content) => Layer.ofFile? content

/-- A layer as it is merged in. It has to be readable, there has to be room for
what its keys ask for, and its entries come in some order. -/
def taken (room : Nat) (order : List String) : Option Layer → Except LoadError Layer
  | none => .error .badFile
  | some layer => if layer.fits room then .ok (arrange (·.1) order layer) else .error .noRoom

variable (s : Stack)

/-- The layer of the user's file. -/
def userLayer : Except LoadError Layer := taken s.room s.orders.user (fileLayer s.user)

/-- The layer of the project's file. -/
def projectLayer : Except LoadError Layer := taken s.room s.orders.project (fileLayer s.project)

/-- The layer of the file of this copy of the project. -/
def personalLayer : Except LoadError Layer := taken s.room s.orders.personal (fileLayer s.personal)

/-- The single values of the variables. -/
def singles : NameMap Tree := Variables.scalars s.orders.names s.marker s.environment

/-- The layer of the single values. -/
def singleLayer : Except LoadError Layer := taken s.room s.orders.scalars (some s.singles.toList)

/-- The layer of the lists that variables set. They are put together before
anything else is read. -/
def listLayer : Except LoadError Layer := do
  let overrides ← (Variables.overrides s.marker s.environment).mapError .badVariable
  if overrides.fits s.room then return (Variables.lists s.orders.lists overrides).entries
  else throw .noRoom

/-- The layer of the file that is named on purpose. -/
def namedLayer : Except LoadError Layer :=
  taken s.room s.orders.explicit (explicitLayer s.explicit)

/-- The layers from the lowest to the highest. -/
def layers : Except LoadError (List Layer) := do
  let lists ← s.listLayer
  let user ← s.userLayer
  let project ← s.projectLayer
  let personal ← s.personalLayer
  let singles ← s.singleLayer
  let named ← s.namedLayer
  return [({} : Settings).toTree.entries, user, project, personal, singles, lists, named]

/-- The merged layers. -/
def merged (layers : List Layer) : Tree := layers.foldl Layer.mergeOver (.table [])

/-- Takes settings out of merged layers. -/
def settings (t : Tree) : Except LoadError Settings :=
  (Layers.format.readSettings t).mapError fun _ => .badSettings

/-- Loads settings. -/
def load : Except LoadError Settings := do settings (merged (← s.layers))

/-- Loads settings; if that fails, they are the defaults. If it does not come
back, there are none. -/
def loadOrDefault : Option Settings :=
  match s.load with
  | .ok settings => some settings
  | .error .noRoom => none
  | .error _ => some {}

end Stack

end AccessPolicy
