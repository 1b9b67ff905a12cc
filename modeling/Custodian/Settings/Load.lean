import Custodian.Files.Tree
import Custodian.Settings
import Custodian.Toml.Document
import Custodian.Toml.Reader

/-!
# Loading settings

`Settings.ofText?` : the settings in a TOML document. `Settings.loadFrom` : those in a file. `Settings.load` : those in
the file at the usual place, if there is one, and the environment.
-/

namespace Custodian

set_option autoImplicit false

/-! ## Places -/

/-- The home directory; without a variable for it, that of the administrator. -/
def homeDir (env : Environment) : String :=
  match env "HOME" with
  | some h => if h = "" then "/root" else h
  | none => "/root"

/-- The directory of configuration files. -/
def configDir (env : Environment) : String :=
  Path.join ((env "XDG_CONFIG_HOME").getD (Path.join (homeDir env) ".config")) "bro"

/-- Whether there is anything at a path. -/
def Tree.exists (t : Tree) (path : String) : Bool := (t.find path).isOk

namespace Settings

/-- The usual place of an agent's settings. -/
def path (env : Environment) : String := Path.join (configDir env) "agent.toml"

/-! ## Documents -/

/-- The settings in a value; what it does not mention has its default. -/
def ofValue? (v : Toml.Value) : Option Settings := do
  let f ← Toml.fields? v
  let url ← f.optional 0 "orchestrator_url" Toml.text? ({} : Settings).url
  let apiVersion ← f.optional 1 "api_version" Toml.text? ({} : Settings).apiVersion
  let maxAttempts ← f.optional 2 "max_registration_attempts" (Toml.nat? maxAttemptsBound) ({} : Settings).maxAttempts
  let chunkSize ← f.optional 3 "chunk_size" (Toml.nat? chunkSizeBound) ({} : Settings).chunkSize
  let keepAlive ← f.optional 4 "keep_alive_secs" (Toml.nat? secondsBound) ({} : Settings).keepAlive
  let connectTimeout ← f.optional 5 "connect_timeout_secs" (Toml.nat? secondsBound) ({} : Settings).connectTimeout
  return { url, apiVersion, maxAttempts, chunkSize, keepAlive, connectTimeout }

/-- The settings in a TOML document. -/
def ofText? (text : String) : Option Settings := (Toml.parse? text).bind fun t => ofValue? t.toValue

/-- The settings in a file. -/
def loadFrom (t : Tree) (path : String) : Except Error Settings :=
  match t.readText path with
  | .error f => .error (.config ("failed to read " ++ path ++ ": " ++ f.message))
  | .ok text =>
    match ofText? text with
    | none => .error (.config ("failed to parse " ++ path))
    | some s => .ok s

/-- The settings at the usual place, or the defaults, with the environment over them. -/
def load (t : Tree) (env : Environment) : Except Error Settings := do
  let s ← if t.exists (path env) then loadFrom t (path env) else .ok {}
  s.override env

end Settings

end Custodian
