import Custodian.Program

/-!
# The command

Reads the environment and the configuration, runs the program and prints what it says of a failure. No orchestrator can
be reached from here, so that going to work ends with a failed connection.
-/

namespace Custodian.Program

set_option autoImplicit false

/-- The bytes of a file, if it can be read. -/
def readBytes? (path : String) : IO (Option ByteArray) := do
  try
    return some (← IO.FS.readBinFile path)
  catch _ =>
    return none

/-- A tree with what can be read of some files. -/
def readFiles (t : Tree) : List String → IO Tree
  | [] => return t
  | path :: paths => do
    match ← readBytes? path with
    | some b => readFiles (Program.withFile t path b) paths
    | none => readFiles t paths

/-- The values of some variables. -/
def readVariables : List String → IO (List (String × String))
  | [] => return []
  | name :: names => do
    let rest ← readVariables names
    match ← IO.getEnv name with
    | some v => return (name, v) :: rest
    | none => return rest

end Custodian.Program

open Custodian

/-- Runs the program with the arguments it was given. -/
def main (args : List String) : IO UInt32 := do
  let bare ← Program.readFiles (.ofWork (.ofNames ["work"])) [Program.variablesFile]
  let text := (bare.readText Program.variablesFile).toOption.getD ""
  let known ← Program.readVariables (Program.variablesNeeded text)
  let env : Environment := fun name => known.lookup name
  let tree ← Program.readFiles bare (Program.filesNeeded args env bare)
  let ending := Program.run args env tree fun _ => none
  ending.complaints.forM IO.eprintln
  if ending.code = 0 then IO.println Program.usage
  else if ending.code = 2 then IO.eprintln Program.usage
  else IO.eprintln (Program.troubleText ending.trouble)
  return ending.code.toUInt32
