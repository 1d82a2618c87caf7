/-
Registries: named rules as they are declared, and the compiled policies made
of them.

A name may be registered with a rule, or without one, which locks it; to
register it again replaces what was there.
-/
import AccessPolicy.Event
import AccessPolicy.Names.Map

namespace AccessPolicy

/-- Named rules as they are declared. A name without a rule is locked. -/
structure PolicySet where
  entries : NameMap (Option Rule) := ∅
deriving DecidableEq

/-- Compiled policies by name. -/
structure CompiledPolicies where
  policies : NameMap Policy := ∅
deriving DecidableEq

namespace CompiledPolicies

/-- Collects compiled policies under their names; of two of one name the later counts. -/
def ofList (l : List Policy) : CompiledPolicies := ⟨.ofList (l.map fun p => (p.name, p))⟩

/-- The policy of the name. -/
def get? (c : CompiledPolicies) (name : String) : Option Policy := c.policies.get? name

/-- Whether there is a policy of the name. -/
def contains (c : CompiledPolicies) (name : String) : Bool := c.policies.contains name

/-- The names, in order. -/
def names (c : CompiledPolicies) : List String := c.policies.keys

/-- The policies, in the order of their names. -/
def toList (c : CompiledPolicies) : List Policy := c.policies.values

/-- The number of policies. -/
def size (c : CompiledPolicies) : Nat := c.policies.size

/-- Whether there are no policies. -/
def isEmpty (c : CompiledPolicies) : Bool := c.policies.isEmpty

/-- Asks the named policy. Only an unknown name is an error; a refusal is a decision. -/
def authorize (c : CompiledPolicies) (name : String) (p : Principal) : Except Refusal Decision :=
  match c.get? name with
  | some policy => .ok (policy.evaluate p)
  | none => .error (.unknownPolicy name)

end CompiledPolicies

namespace PolicySet

/-- The set without entries. -/
def empty : PolicySet := {}

/-- Collects entries; of two of one name the later counts. -/
def ofList (l : List (String × Option Rule)) : PolicySet := ⟨.ofList l⟩

/-- The set after registering a name. -/
def insert (s : PolicySet) (name : String) (rule : Option Rule) : PolicySet :=
  ⟨s.entries.insert name rule⟩

/-- The set with a rule registered under a name. -/
def withPolicy (s : PolicySet) (name : String) (rule : Rule) : PolicySet := s.insert name (some rule)

/-- The set with a name registered that nobody passes. -/
def withLocked (s : PolicySet) (name : String) : PolicySet := s.insert name none

/-- Registers a name and tells which entry was there before. -/
def replace (s : PolicySet) (name : String) (rule : Option Rule) :
    Option (Option Rule) × PolicySet :=
  (s.entries.get? name, s.insert name rule)

/-- The entry of a name: nothing if it is not registered, no rule if it is locked. -/
def get? (s : PolicySet) (name : String) : Option (Option Rule) := s.entries.get? name

/-- The entries, in the order of their names. -/
def toList (s : PolicySet) : List (String × Option Rule) := s.entries.toList

/-- The number of registered names. -/
def size (s : PolicySet) : Nat := s.entries.size

/-- Whether no name is registered. -/
def isEmpty (s : PolicySet) : Bool := s.entries.isEmpty

/-- The compiled policies of the entries, in the order of their names. -/
def compileEach (s : PolicySet) : List Policy := s.toList.map fun e => Policy.compile e.1 e.2

/-- Compiles every entry. -/
def compile (s : PolicySet) : CompiledPolicies := .ofList s.compileEach

/-- What compiling reports: an event for each entry, then one for the whole. -/
def compileEvents (s : PolicySet) : List Event :=
  s.compileEach.map Event.ofPolicy
    ++ [.compiledSet s.compile.size (s.compile.toList.countP Policy.isLocked)]

end PolicySet

end AccessPolicy
