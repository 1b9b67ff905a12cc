import Custodian.Agent
import Custodian.CommandLine
import Custodian.DotEnv
import Custodian.Endpoint
import Custodian.LogFilter
import Custodian.Reference.Behavior

/-!
# The program

`Program.run` : the reference agent as a program. From its arguments, its environment, the files around it and the
orchestrators it can reach follow its exit code, what it says of a failure, and the control channel it leaves.
-/

namespace Custodian.Program

set_option autoImplicit false

/-- An orchestrator that can be reached: its control calls and its data calls. -/
structure Service where
  plans : List ControlPlan := []
  beyond : ControlPlan := {}
  orchestrator : Orchestrator := {}
deriving Inhabited

/-- How the program ends: its exit code, and if it failed what went wrong and why; its control channel; and what it said
of log directives when it began. -/
structure Ending where
  code : Nat
  trouble : List String := []
  line : Option Line := none
  complaints : List String := []

/-- What is said of a failure: what went wrong, and under it what caused it. -/
def troubleText : List String → String
  | [] => ""
  | [e] => "Error: " ++ e
  | e :: causes =>
    "Error: " ++ e ++ "\n\nCaused by:" ++
      String.join (causes.map fun c => "\n    " ++ "\n    ".intercalate (c.splitOn "\n"))

/-- The lines of a text; a carriage return before a line break belongs to the break. -/
def linesOf (text : String) : List String :=
  (text.toList.splitOn '\n').map fun l => String.ofList (if l.getLast? = some '\r' then l.dropLast else l)

/-- All that a failing program says, line by line. -/
def Ending.lines (e : Ending) : List String := (e.complaints ++ [troubleText e.trouble]).flatMap linesOf

/-- A failure. -/
def failed (trouble : List String) (line : Option Line := none) : Ending := { code := 1, trouble, line }

/-- The end of a program that breaks down before it can do anything. -/
def brokenDown : Ending := { code := 101 }

/-- The agent at work: it introduces itself and follows commands until its channel stops. -/
def serve (c : Reference.Config) (a : Agent) (s : Service) (t : Tree) : Ending :=
  match a.registrate (.ofPlans c.settings.maxAttempts s.plans s.beyond) with
  | (l, .refused e) => failed ["failed to send registration", e.message] (some l)
  | (l, _) =>
    let world : World Empty := { orchestrator := s.orchestrator, tree := t }
    let (l, _) := Line.settle (a.handle (Reference.behavior c)) (l, world)
    if l.channel.status = .stopped .registrationExhausted then
      failed ["control channel stopped: registration attempts exhausted"] (some l.shutdown)
    else { code := 0, line := some l.shutdown }

/-- Connects and goes to work. -/
def start (c : Reference.Config) (reach : Endpoint → Option Service) (t : Tree) : Ending :=
  let e := Endpoint.ofSettings c.settings
  let refused := fun (r : Error) => failed ["failed to connect to orchestrator at " ++ c.settings.url, r.message]
  match e.check with
  | .error r => refused r
  | .ok _ =>
    match reach e with
    | none => refused e.refused
    | some s =>
      match Agent.create c.settings c.registration with
      | .error r => refused r
      | .ok a => serve c a s t

/-- The file of variables in the working directory. -/
def variablesFile : String := ".env"

/-- The environment with the file of variables. -/
def environment? (env : Environment) (t : Tree) : Option Environment :=
  match t.readFile variablesFile with
  | .ok b => DotEnv.load? env b
  | .error _ => some env

/-- The family of agents that the program belongs to. -/
def family : String := "bro"

/-- The environment to run in, with a log filter that can be built from it. -/
def prepare? (env : Environment) (t : Tree) : Option (Environment × LogFilter) := do
  let env ← environment? env t
  return (env, ← LogFilter.forAgents? family env)

/-- The program. Without an environment or a log filter it breaks down before it looks at its arguments. -/
def run (args : List String) (env : Environment) (t : Tree) (reach : Endpoint → Option Service) : Ending :=
  match prepare? env t with
  | none => brokenDown
  | some (env, _) =>
    let ending : Ending := match Arguments.read env args with
      | .help => { code := 0 }
      | .misused => { code := 2 }
      | .run a =>
        match Reference.Config.load t env a.config with
        | .error trouble => failed trouble
        | .ok c => start (c.withOptions a.orchestrator a.agentId) reach t
    { ending with complaints := LogFilter.complaints env }

/-! ## What to look up beforehand -/

/-- The words of a file of variables that may name variables. -/
def wordsOf (cs : List Char) : List String :=
  let isWord := fun c : Char => Text.isAlphanumeric c || c = '_'
  (cs.splitBy fun a b => isWord a == isWord b).map String.ofList

/-- The variables that the program may ask for, given the text of its file of variables. -/
def variablesNeeded (text : String) : List String :=
  ["HOME", "XDG_CONFIG_HOME", Settings.urlVariable, Settings.apiVersionVariable, Settings.maxAttemptsVariable,
    Settings.chunkSizeVariable, Arguments.configVariable, LogFilter.variableName] ++ wordsOf text.toList

/-- The files that the program may read before it goes to work. -/
def filesNeeded (args : List String) (env : Environment) (t : Tree) : List String :=
  match prepare? env t with
  | none => []
  | some (env, _) =>
    match Arguments.read env args with
    | .run a => [a.config.getD (Reference.Config.path env)]
    | _ => []

/-- A tree with one more file. -/
def withFile (t : Tree) (path : String) (content : ByteArray) : Tree :=
  ((FileSink.openFile path ⟨t, none⟩).2.write content).2.tree

/-- How the program is used. -/
def usage : String :=
  "Usage: [--config <CONFIG>] [-o|--orchestrator <ORCHESTRATOR>] [--agent-id <AGENT_ID>] [-h|--help]"

end Custodian.Program
