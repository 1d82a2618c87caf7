/-
The commands of the program, and what a command line asks for.
-/
import AccessPolicy.Command.Options

namespace AccessPolicy.Command

/-- What a command line says about the principal to check. -/
structure PrincipalOptions where
  user : Option String := none
  roles : List String := []
  /-- Claims as they are written: a type, an equals sign, a value. -/
  claims : List String := []
  anonymous : Bool := false
deriving DecidableEq

/-- What the program is to do. -/
inductive Action where
  | version
  | init (path : String)
  | policies
  | check (policy : String) (principal : PrincipalOptions)
  | showSettings (format : String)
  | validate
deriving DecidableEq

/-- What a command line asks for. -/
structure Invocation where
  action : Action
  /-- The folder of the project. -/
  project : String := "."
  /-- A file with settings that go over all others. -/
  config : Option String := none
  colours : Bool := true
deriving DecidableEq

/-! ## Commands -/

/-- The options of all commands. -/
def sharedOptions : List OptionSpec := [
  { name := "project", letter := some 'p', takes := .one, mayBeEmpty := false },
  { name := "config", letter := some 'c', takes := .one, mayBeEmpty := false },
  { name := "no-color" }]

/-- The options that describe a principal. -/
def principalOptions : List OptionSpec := [
  { name := "user", letter := some 'u', takes := .one },
  { name := "role", letter := some 'r', takes := .many },
  { name := "claim", takes := .many },
  { name := "anonymous" }]

/-- The program with its commands. -/
def program : CommandSpec :=
  .mk "warden" [] none [
    .mk "version" [] none [],
    .mk "init" [] (some { required := false, mayBeEmpty := false }) [],
    .mk "policies" [] none [],
    .mk "check" principalOptions (some { required := true }) [],
    .mk "config" [] none [
      .mk "show" [{ name := "format", letter := some 'f', takes := .one }] none [],
      .mk "validate" [] none []]]

/-! ## Command lines -/

/-- What the program is to do, if its commands are complete. -/
def Reading.action? (r : Reading) : Option Action :=
  match r.commands with
  | ["version"] => some .version
  | ["init"] => some (.init (r.operand.getD "."))
  | ["policies"] => some .policies
  | ["check"] => some (.check (r.operand.getD "") {
      user := r.value? "user"
      roles := r.valuesOf "role"
      claims := r.valuesOf "claim"
      anonymous := r.has "anonymous" })
  | ["config", "show"] => some (.showSettings ((r.value? "format").getD "text"))
  | ["config", "validate"] => some .validate
  | _ => none

/-- Reads a command line. -/
def Invocation.parse (args : List String) : Except Stop Invocation := do
  let r ← Reading.read sharedOptions program {} args
  match r.action? with
  | none => throw .usage
  | some action => return {
      action
      project := (r.value? "project").getD "."
      config := r.value? "config"
      colours := !r.has "no-color" }

end AccessPolicy.Command
