/-
Command lines: descriptions of commands with options, an operand and commands
of their own, and the reading of arguments by such a description.
-/

namespace AccessPolicy.Command

/-! ## Descriptions -/

/-- How often an option takes a value. -/
inductive Takes where
  | nothing
  | one
  | many
deriving DecidableEq

/-- An option, which has a name and perhaps a letter. -/
structure OptionSpec where
  name : String
  letter : Option Char := none
  takes : Takes := .nothing
  /-- Whether its value may be empty. -/
  mayBeEmpty : Bool := true
deriving DecidableEq

/-- An argument that is no option. -/
structure OperandSpec where
  required : Bool
  /-- Whether it may be empty. -/
  mayBeEmpty : Bool := true
deriving DecidableEq

/-- A command. One that has commands of its own needs one of them. -/
inductive CommandSpec where
  | mk (name : String) (options : List OptionSpec) (operand : Option OperandSpec)
      (commands : List CommandSpec)

namespace CommandSpec

/-- The name of a command. -/
def name : CommandSpec → String
  | mk name _ _ _ => name

/-- The options of a command alone. -/
def options : CommandSpec → List OptionSpec
  | mk _ options _ _ => options

/-- The operand of a command. -/
def operand : CommandSpec → Option OperandSpec
  | mk _ _ operand _ => operand

/-- The commands of a command. -/
def commands : CommandSpec → List CommandSpec
  | mk _ _ _ commands => commands

/-- The command with a name. -/
def find? (c : CommandSpec) (name : String) : Option CommandSpec :=
  c.commands.find? fun d => d.name = name

/-- Whether some names lead to a command. -/
def leads (c : CommandSpec) : List String → Bool
  | [] => true
  | name :: names =>
    match c.find? name with
    | some d => leads d names
    | none => false

end CommandSpec

/-! ## Reading -/

/-- Why reading stops before there is a command to run. -/
inductive Stop where
  | usage
  | help
  /-- The version of the command that some names lead to is asked for. -/
  | version (commands : List String)
deriving DecidableEq

/-- What has been read. -/
structure Reading where
  /-- The names of the commands, from the outermost. -/
  commands : List String := []
  /-- The options of the commands further out, and their values. -/
  outer : List (String × String) := []
  /-- The options of the innermost command, and their values. -/
  values : List (String × String) := []
  operand : Option String := none
  /-- The option whose value has to follow. -/
  pending : Option OptionSpec := none
  /-- Whether no more options follow. -/
  literal : Bool := false
deriving DecidableEq

namespace Reading

/-- The value that an option was given last and innermost. -/
def value? (r : Reading) (name : String) : Option String :=
  ((r.outer ++ r.values).reverse.find? fun v => v.1 = name).map (·.2)

/-- All values of an option. -/
def valuesOf (r : Reading) (name : String) : List String :=
  ((r.outer ++ r.values).filter fun v => v.1 = name).map (·.2)

/-- Whether an option was given. -/
def has (r : Reading) (name : String) : Bool := (r.value? name).isSome

/-- Takes the value of an option in. An option that is not repeatable may be
given to a command only once. -/
def give (r : Reading) (o : OptionSpec) (value : String) : Except Stop Reading :=
  if o.takes ≠ .many && r.values.any (·.1 = o.name) then .error .usage
  else if value.isEmpty && !o.mayBeEmpty then .error .usage
  else .ok { r with values := r.values ++ [(o.name, value)], pending := none }

/-- Takes an operand in. -/
def giveOperand (r : Reading) (c : CommandSpec) (value : String) : Except Stop Reading :=
  match c.operand with
  | none => .error .usage
  | some o =>
    if r.operand.isSome || (value.isEmpty && !o.mayBeEmpty) then .error .usage
    else .ok { r with operand := some value }

/-- Reads a named option, given the text after its two dashes. -/
def long (options : List OptionSpec) (r : Reading) (l : List Char) : Except Stop Reading :=
  let name := String.ofList (l.takeWhile (· != '='))
  let value := match l.dropWhile (· != '=') with
    | [] => none
    | _ :: v => some (String.ofList v)
  match options.find? fun o => o.name = name with
  | some o =>
    match o.takes, value with
    | .nothing, none => r.give o ""
    | .nothing, some _ => .error .usage
    | _, some v => r.give o v
    | _, none => .ok { r with pending := some o }
  | none =>
    if value.isSome then .error .usage
    else if name = "help" then .error .help
    else if name = "version" then .error (.version r.commands)
    else .error .usage

/-- Reads options by their letters; the rest after the letter of an option
that takes a value is the value. -/
def short (options : List OptionSpec) (r : Reading) : List Char → Except Stop Reading
  | [] => .ok r
  | c :: l =>
    match options.find? fun o => o.letter = some c with
    | some o =>
      if o.takes = .nothing then do short options (← r.give o "") l
      else match l with
        | [] => .ok { r with pending := some o }
        | '=' :: v => r.give o (String.ofList v)
        | v => r.give o (String.ofList v)
    | none =>
      if c = 'h' then .error .help
      else if c = 'V' then .error (.version r.commands)
      else .error .usage

/-- Starts the arguments of a command within the command at hand. -/
def enter (r : Reading) (name : String) : Reading :=
  { commands := r.commands ++ [name], outer := r.outer ++ r.values }

/-- The end of the arguments. -/
def finish (c : CommandSpec) (r : Reading) : Except Stop Reading :=
  let incomplete := c.operand.any (·.required) && r.operand.isNone
  if r.pending.isSome || !c.commands.isEmpty || incomplete then .error .usage else .ok r

/-- Reads the arguments of a command. Some options belong to all commands. -/
def read (shared : List OptionSpec) (c : CommandSpec) (r : Reading) :
    List String → Except Stop Reading
  | [] => r.finish c
  | arg :: args => do
    let options := c.options ++ shared
    if r.literal then read shared c (← r.giveOperand c arg) args
    else
      match r.pending, arg.toList with
      | some _, '-' :: _ :: _ => .error .usage
      | some o, _ => do read shared c (← r.give o arg) args
      | none, ['-', '-'] => read shared c { r with literal := true } args
      | none, '-' :: '-' :: l => do read shared c (← r.long options l) args
      | none, '-' :: a :: l => do read shared c (← r.short options (a :: l)) args
      | none, _ =>
        match c.find? arg with
        | some d => read shared d (r.enter arg) args
        | none =>
          if arg = "help" && !c.commands.isEmpty then
            .error (if c.leads args then .help else .usage)
          else do read shared c (← r.giveOperand c arg) args

end Reading

end AccessPolicy.Command
