import Custodian.LogFilter.Directive
import Custodian.Settings

/-!
# Log filters

`LogFilter.levelFor` : the level enabled for a target, which is that of the first in rank of the directives that apply.
`LogFilter.ofEnvironment` and `LogFilter.forAgents` : the filters of a program, from a variable of the environment and
built-in directives; a built-in directive takes the place of one from the variable about the same. There is no filter if
a word of a directive would be cut within a character. `LogFilter.complaints` : what is said of directives in the
variable that are left out.
-/

namespace Custodian

set_option autoImplicit false

/-- Directives, no two about the same. -/
abbrev LogFilter := List Directive

namespace LogFilter

/-- Adds a directive in the place of one about the same. -/
def add (f : LogFilter) (d : Directive) : LogFilter := f.filter (fun e => !e.sameScope d) ++ [d]

/-- The directive that decides on a target: of those that apply the first in rank. -/
def decisive? (f : LogFilter) (target : String) : Option Directive :=
  (f.filter (·.applies target)).foldl (fun best d =>
    match best with
    | none => some d
    | some b => if d.Outranks b then some d else some b) none

/-- The level enabled for a target. -/
def levelFor (f : LogFilter) (target : String) : LogLevel :=
  match f.decisive? target with
  | some d => d.level
  | none => .off

/-! ## Filters of programs -/

/-- The variable with directives. -/
def variableName : String := "RUST_LOG"

/-- The texts between the commas of a text, other than empty ones. -/
def pieces (text : String) : List String := ((text.toList.splitOn ',').filter (· ≠ [])).map String.ofList

/-- The directives that texts give, in their order; those that cannot be read are left out. -/
def readAll : List String → Option (List Directive)
  | [] => some []
  | w :: ws =>
    match Directive.parse w with
    | .ok d => (readAll ws).map (d :: ·)
    | .error .miscut => none
    | .error _ => readAll ws

/-- The directives in a text, with commas between them. -/
def ofText? (text : String) : Option LogFilter := (readAll (pieces text)).map fun ds => ds.foldl add []

/-- The text of the variable with directives. -/
def variableText (env : Environment) : String := (env variableName).getD ""

/-- The directives of the environment. -/
def ofVariable? (env : Environment) : Option LogFilter := ofText? (variableText env)

/-- What is said of a text that is left out. -/
def complaint? (text : String) : Option String :=
  match Directive.parse text with
  | .ok _ => none
  | .error m => some ("ignoring `" ++ text ++ "`: " ++ m.message)

/-- What is said of the directives of the environment that are left out. -/
def complaints (env : Environment) : List String := (pieces (variableText env)).filterMap complaint?

/-- The directives of the environment, and elsewhere what is worth knowing. -/
def ofEnvironment? (env : Environment) : Option LogFilter := (ofVariable? env).map (·.add { level := .info })

/-- The target prefixes of a family of agents. -/
def agentTargets (family : String) : List String :=
  let name := String.ofList (family.toList.map fun c => if c = '-' then '_' else c)
  [name ++ "_agent", name ++ "_test_agent"]

/-- Adds what is worth knowing of the targets with a prefix. A prefix that cannot be read stands for all targets. -/
def addTarget (f : LogFilter) (target : String) : Option LogFilter :=
  match Directive.parse (target ++ "=info") with
  | .ok d => some (f.add d)
  | .error .miscut => none
  | .error _ => some (f.add { level := .info })

/-- The directives of the environment, warnings elsewhere, and what is worth knowing of a family of agents. -/
def forAgents? (family : String) (env : Environment) : Option LogFilter := do
  (agentTargets family).foldlM addTarget ((← ofVariable? env).add { level := .warn })

end LogFilter

end Custodian
