import Custodian.Settings

/-!
# The command line

`Arguments.read` : what the arguments of the program ask for. There are three options with a value, and one that asks
for help.
-/

namespace Custodian

set_option autoImplicit false

/-- An option with a value. -/
inductive CommandOption where
  | config
  | orchestrator
  | agentId
deriving DecidableEq, Inhabited

/-- The values of the options that were given. -/
structure Arguments where
  config : Option String := none
  orchestrator : Option String := none
  agentId : Option String := none
deriving DecidableEq, Inhabited

/-- What the arguments ask for. -/
inductive CommandRequest where
  | run (a : Arguments)
  | help
  /-- They ask for nothing that the program knows. -/
  | misused
deriving DecidableEq, Inhabited

namespace Arguments

/-- The value of an option. -/
def get (a : Arguments) : CommandOption → Option String
  | .config => a.config
  | .orchestrator => a.orchestrator
  | .agentId => a.agentId

/-- The arguments with a value for an option. -/
def set (a : Arguments) (o : CommandOption) (v : String) : Arguments :=
  match o with
  | .config => { a with config := some v }
  | .orchestrator => { a with orchestrator := some v }
  | .agentId => { a with agentId := some v }

/-- Gives an option its value: only one, and a file has a name that is not empty. -/
def give (a : Arguments) (o : CommandOption) (v : String) : Option Arguments :=
  if (a.get o).isSome ∨ (o = .config ∧ v = "") then none else some (a.set o v)

/-- An option by its long name. -/
def longOption? (name : String) : Option CommandOption :=
  if name = "config" then some .config
  else if name = "orchestrator" then some .orchestrator
  else if name = "agent-id" then some .agentId
  else none

/-- What a single argument is. -/
inductive Word where
  /-- Two hyphens: no options follow. -/
  | rest
  | help
  | option (o : CommandOption)
  | optionWith (o : CommandOption) (v : String)
  /-- A word that is no option. -/
  | plain
  | unknown
deriving DecidableEq, Inhabited

/-- The value after a letter, without an equals sign before it. -/
def attached (cs : List Char) : List Char :=
  match cs with
  | '=' :: r => r
  | r => r

/-- What a single argument is, before two hyphens have been seen. -/
def classify (s : String) : Word :=
  match s.toList with
  | '-' :: '-' :: [] => .rest
  | '-' :: '-' :: name =>
    let key := String.ofList (name.takeWhile (· ≠ '='))
    match name.dropWhile (· ≠ '=') with
    | [] =>
      if key = "help" then .help
      else match longOption? key with
        | some o => .option o
        | none => .unknown
    | _ :: v =>
      match longOption? key with
      | some o => .optionWith o (String.ofList v)
      | none => .unknown
  | ['-', 'o'] => .option .orchestrator
  | '-' :: 'o' :: v => .optionWith .orchestrator (String.ofList (attached v))
  | '-' :: 'h' :: _ => .help
  | '-' :: _ :: _ => .unknown
  | _ => .plain

/-- Reads arguments; `pending` is an option that waits for its value. -/
def readFrom (a : Arguments) (pending : Option CommandOption) : List String → CommandRequest
  | [] => if pending.isSome then .misused else .run a
  | s :: ss =>
    match classify s, pending with
    | .rest, none => if ss.isEmpty then .run a else .misused
    | .plain, some o =>
      match a.give o s with
      | some a => readFrom a none ss
      | none => .misused
    | .help, none => .help
    | .option o, none => readFrom a (some o) ss
    | .optionWith o v, none =>
      match a.give o v with
      | some a => readFrom a none ss
      | none => .misused
    | _, _ => .misused

/-- The variable that names the file when no option does. -/
def configVariable : String := "BRO_TEST_AGENT_CONFIG"

/-- What the arguments ask for. -/
def read (env : Environment) (args : List String) : CommandRequest :=
  match readFrom {} none args with
  | .run a =>
    match a.config, env configVariable with
    | none, some v =>
      match a.give .config v with
      | some a => .run a
      | none => .misused
    | _, _ => .run a
  | r => r

end Arguments

end Custodian
