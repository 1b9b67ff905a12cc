import Custodian.Identity
import Custodian.Settings.Load

/-!
# Configuration of the reference agent

`Reference.Config` : who the reference agent says it is, the files it backs up, where it restores to, and its settings.
`Config.load` reads it from a file and the environment; `Config.withOptions` puts options of the command line over it.
-/

namespace Custodian.Reference

set_option autoImplicit false

/-- A file to be backed up, and the file with its custom metadata if it has one. -/
structure FragmentFile where
  path : String
  customPath : Option String := none
deriving DecidableEq, Inhabited

/-- The version that the reference agent has unless it is told another. -/
def defaultVersion : SoftwareVersion where
  productName := "Test Agent"
  productNumber := "2"
  revision := "Nope"
  productionDate := "No date"
  description := "No Description"
  kind := "type"
  commercialVersion := "CommercialVersion"
  semanticVersion := "SemanticVersion"

/-- What the reference agent is told. -/
structure Config where
  agentId : String := "TestAgent"
  scope : String := ""
  downloadDir : String := "./restored"
  version : SoftwareVersion := defaultVersion
  files : List FragmentFile := []
  settings : Settings := {}
deriving DecidableEq, Inhabited

/-- A version; what is not mentioned is as in the default one. -/
def version? (v : Toml.Value) : Option SoftwareVersion := do
  let f ← Toml.fields? v
  let productName ← f.optional 0 "product_name" Toml.text? defaultVersion.productName
  let productNumber ← f.optional 1 "product_number" Toml.text? defaultVersion.productNumber
  let revision ← f.optional 2 "revision" Toml.text? defaultVersion.revision
  let productionDate ← f.optional 3 "production_date" Toml.text? defaultVersion.productionDate
  let description ← f.optional 4 "description" Toml.text? defaultVersion.description
  let kind ← f.optional 5 "type" Toml.text? defaultVersion.kind
  let commercialVersion ← f.optional 6 "commercial_version" Toml.text? defaultVersion.commercialVersion
  let semanticVersion ← f.optional 7 "semantic_version" Toml.text? defaultVersion.semanticVersion
  return { productName, productNumber, revision, productionDate, description, kind, commercialVersion,
           semanticVersion }

/-- A file to be backed up. -/
def fragmentFile? (v : Toml.Value) : Option FragmentFile := do
  let f ← Toml.fields? v
  let path ← f.required 0 "backup_file" Toml.text?
  let customPath ← f.optional 1 "custom_metadata_file" (fun v => (Toml.text? v).map some) none
  return { path, customPath }

namespace Config

/-- The usual place of the configuration. -/
def path (env : Environment) : String := Path.join (configDir env) "test-agent.toml"

/-- The configuration in a value. -/
def ofValue? (v : Toml.Value) : Option Config := do
  let f ← Toml.fields? v
  let agentId ← f.optional 0 "agent_id" Toml.text? ({} : Config).agentId
  let scope ← f.optional 1 "scope" Toml.text? ({} : Config).scope
  let downloadDir ← f.optional 2 "download_location" Toml.text? ({} : Config).downloadDir
  let version ← f.optional 3 "software_version" version? ({} : Config).version
  let files ← f.optional 4 "fragments" (fun v => (Toml.list? v).bind fun l => l.mapM fragmentFile?) []
  let settings ← f.optional 5 "orchestrator" Settings.ofValue? ({} : Config).settings
  return { agentId, scope, downloadDir, version, files, settings }

/-- The configuration in a TOML document. -/
def ofText? (text : String) : Option Config := (Toml.parse? text).bind fun t => ofValue? t.toValue

/-- The configuration in a file, or why there is none: what was tried, and then the cause. -/
def loadFrom (t : Tree) (path : String) : Except (List String) Config :=
  match t.readText path with
  | .error f => .error ["failed to read config file: " ++ path, f.message]
  | .ok text =>
    match ofText? text with
    | none => .error ["failed to parse config file: " ++ path, "TOML parse error"]
    | some c => .ok c

/-- The configuration with the environment over its settings. -/
def override (c : Config) (env : Environment) : Except (List String) Config :=
  match c.settings.override env with
  | .ok s => .ok { c with settings := s }
  | .error e => .error ["invalid orchestrator settings", e.message]

/-- The configuration in a given file, or in the file at the usual place if there is one, with the environment over its
settings. -/
def load (t : Tree) (env : Environment) (given : Option String) : Except (List String) Config := do
  let c ← match given with
    | some p => loadFrom t p
    | none => if t.exists (path env) then loadFrom t (path env) else .ok {}
  c.override env

/-- The configuration with the options of a command line over it. -/
def withOptions (c : Config) (url agentId : Option String) : Config :=
  { c with settings := { c.settings with url := url.getD c.settings.url }, agentId := agentId.getD c.agentId }

/-- Who the reference agent is. -/
def registration (c : Config) : Registration := ⟨c.agentId, c.scope, c.version⟩

end Config

end Custodian.Reference
