import Custodian.Message.Basic
import Custodian.Wire.Schema

/-!
# Messages on the wire

The schema of every type of message that agent and orchestrator send each other.
-/

namespace Custodian

set_option autoImplicit false

namespace Wire

/-! ## Records -/

/-- A message that has no fields. -/
structure NoFields where
deriving DecidableEq, Inhabited

def noFieldsSchema : Schema NoFields := .done {}

instance : WireMessage NoFields := { schema := noFieldsSchema }

def softwareVersionSchema : Schema SoftwareVersion :=
  .scalar 1 .text { get := (·.productName), set := fun x m => { m with productName := x } } <|
  .scalar 2 .text { get := (·.productNumber), set := fun x m => { m with productNumber := x } } <|
  .scalar 3 .text { get := (·.revision), set := fun x m => { m with revision := x } } <|
  .scalar 4 .text { get := (·.productionDate), set := fun x m => { m with productionDate := x } } <|
  .scalar 5 .text { get := (·.description), set := fun x m => { m with description := x } } <|
  .scalar 6 .text { get := (·.kind), set := fun x m => { m with kind := x } } <|
  .scalar 7 .text { get := (·.commercialVersion), set := fun x m => { m with commercialVersion := x } } <|
  .scalar 8 .text { get := (·.semanticVersion), set := fun x m => { m with semanticVersion := x } } <|
  .done {}

instance : WireMessage SoftwareVersion := { schema := softwareVersionSchema }

/-- An entry of a dictionary is a message of its own. -/
def entrySchema : Schema (String × String) :=
  .scalar 1 .text { get := Prod.fst, set := fun x m => (x, m.2) } <|
  .scalar 2 .text { get := Prod.snd, set := fun x m => (m.1, x) } <|
  .done ("", "")

def fragmentSchema : Schema Fragment :=
  .scalar 1 .text { get := (·.id), set := fun x m => { m with id := x } } <|
  .scalar 2 .text { get := (·.version), set := fun x m => { m with version := x } } <|
  .scalar 3 .text { get := (·.sizeInBytes), set := fun x m => { m with sizeInBytes := x } } <|
  .dict 4 entrySchema { get := (·.custom), set := fun x m => { m with custom := x } } <|
  .done {}

instance : WireMessage Fragment := { schema := fragmentSchema }

def metadataSchema : Schema Metadata :=
  .scalar 1 .text { get := (·.agentId), set := fun x m => { m with agentId := x } } <|
  .message 2 fragmentSchema (·.fragment) (fun x m => { m with fragment := some x }) <|
  .scalar 3 .text { get := (·.backupName), set := fun x m => { m with backupName := x } } <|
  .done {}

instance : WireMessage Metadata := { schema := metadataSchema }

end Wire

/-! ## Data frames -/

/-- The metadata that a backup frame carries. -/
def BackupBody.metadata? : BackupBody → Option Metadata
  | .metadata m => some m
  | _ => none

/-- The chunk of a `role` file that a backup frame carries. -/
def BackupBody.chunk? (role : FileRole) : BackupBody → Option FileChunk
  | .file r c => if r = role then some c else none
  | _ => none

/-- The chunk of a `role` file that a restore frame carries. -/
def RestoreBody.chunk? (role : FileRole) (b : RestoreBody) : Option FileChunk :=
  if b.role = role then some b.chunk else none

namespace Wire

def fileChunkSchema : Schema FileChunk :=
  .scalar 1 .text { get := (·.fileName), set := fun x m => { m with fileName := x } } <|
  .scalar 2 .raw { get := (·.content), set := fun x m => { m with content := x } } <|
  .scalar 3 .text { get := (·.checksum), set := fun x m => { m with checksum := x } } <|
  .done {}

instance : WireMessage FileChunk := { schema := fileChunkSchema }

def backupFrameSchema : Schema BackupFrame :=
  .scalar 1 .code { get := (·.dataType), set := fun x m => { m with dataType := x } } <|
  .message 2 metadataSchema (·.body.bind (·.metadata?)) (fun x m => { m with body := some (.metadata x) }) <|
  .message 3 fileChunkSchema (·.body.bind (·.chunk? .main)) (fun x m => { m with body := some (.file .main x) }) <|
  .message 4 fileChunkSchema (·.body.bind (·.chunk? .custom))
    (fun x m => { m with body := some (.file .custom x) }) <|
  .done {}

instance : WireMessage BackupFrame := { schema := backupFrameSchema }

def restoreFrameSchema : Schema RestoreFrame :=
  .scalar 1 .code { get := (·.dataType), set := fun x m => { m with dataType := x } } <|
  .message 2 fileChunkSchema (·.body.bind (·.chunk? .main)) (fun x m => { m with body := some ⟨.main, x⟩ }) <|
  .message 3 fileChunkSchema (·.body.bind (·.chunk? .custom)) (fun x m => { m with body := some ⟨.custom, x⟩ }) <|
  .done {}

instance : WireMessage RestoreFrame := { schema := restoreFrameSchema }

end Wire

/-! ## Control frames -/

/-- The introduction that an agent's frame carries. -/
def AgentBody.register? : AgentBody → Option Register
  | .register r => some r
  | _ => none

/-- The report that an agent's frame carries. -/
def AgentBody.stageComplete? : AgentBody → Option StageComplete
  | .stageComplete s => some s
  | _ => none

namespace Wire

/-- An acknowledgement is a message with one text. -/
structure Acknowledgement where
  text : String := ""
deriving DecidableEq, Inhabited

end Wire

namespace OrchestratorBody

/-- The acknowledgement that an orchestrator's frame carries. -/
def acknowledge? : OrchestratorBody → Option Wire.Acknowledgement
  | .acknowledge s => some ⟨s⟩
  | _ => none

/-- The execution that an orchestrator's frame carries. -/
def execution? : OrchestratorBody → Option Execution
  | .execution e => some e
  | _ => none

/-- The preparation that an orchestrator's frame carries. -/
def preparation? : OrchestratorBody → Option Preparation
  | .preparation p => some p
  | _ => none

/-- An order to take post actions has no fields. -/
def postActions? : OrchestratorBody → Option Wire.NoFields
  | .postActions => some {}
  | _ => none

/-- An order to cancel has no fields. -/
def cancel? : OrchestratorBody → Option Wire.NoFields
  | .cancel => some {}
  | _ => none

end OrchestratorBody

namespace Wire

def registerSchema : Schema Register :=
  .scalar 1 .text { get := (·.agentId), set := fun x m => { m with agentId := x } } <|
  .message 2 softwareVersionSchema (·.version) (fun x m => { m with version := some x }) <|
  .scalar 3 .text { get := (·.apiVersion), set := fun x m => { m with apiVersion := x } } <|
  .scalar 4 .text { get := (·.scope), set := fun x m => { m with scope := x } } <|
  .done {}

instance : WireMessage Register := { schema := registerSchema }

def stageCompleteSchema : Schema StageComplete :=
  .scalar 1 .flag { get := (·.success), set := fun x m => { m with success := x } } <|
  .scalar 2 .text { get := (·.message), set := fun x m => { m with message := x } } <|
  .scalar 3 .text { get := (·.agentId), set := fun x m => { m with agentId := x } } <|
  .done {}

instance : WireMessage StageComplete := { schema := stageCompleteSchema }

def agentFrameSchema : Schema AgentFrame :=
  .scalar 1 .code { get := (·.action), set := fun x m => { m with action := x } } <|
  .scalar 2 .code { get := (·.messageType), set := fun x m => { m with messageType := x } } <|
  .message 3 registerSchema (·.body.bind (·.register?)) (fun x m => { m with body := some (.register x) }) <|
  .message 4 stageCompleteSchema (·.body.bind (·.stageComplete?))
    (fun x m => { m with body := some (.stageComplete x) }) <|
  .done {}

instance : WireMessage AgentFrame := { schema := agentFrameSchema }

def executionSchema : Schema Execution :=
  .scalar 1 .text { get := (·.backupName), set := fun x m => { m with backupName := x } } <|
  .message 2 softwareVersionSchema (·.version) (fun x m => { m with version := some x }) <|
  .row 3 fragmentSchema
    { get := (·.fragments), set := fun x m => { m with fragments := x } } <|
  .done {}

instance : WireMessage Execution := { schema := executionSchema }

def preparationSchema : Schema Preparation :=
  .scalar 1 .text { get := (·.backupName), set := fun x m => { m with backupName := x } } <|
  .message 2 softwareVersionSchema (·.version) (fun x m => { m with version := some x }) <|
  .row 3 fragmentSchema
    { get := (·.fragments), set := fun x m => { m with fragments := x } } <|
  .scalar 4 .text { get := (·.backupType), set := fun x m => { m with backupType := x } } <|
  .done {}

instance : WireMessage Preparation := { schema := preparationSchema }

def acknowledgementSchema : Schema Acknowledgement :=
  .scalar 1 .text { get := (·.text), set := fun x m => { m with text := x } } <|
  .done {}

instance : WireMessage Acknowledgement := { schema := acknowledgementSchema }

def orchestratorFrameSchema : Schema OrchestratorFrame :=
  .scalar 1 .code { get := (·.action), set := fun x m => { m with action := x } } <|
  .scalar 2 .code { get := (·.messageType), set := fun x m => { m with messageType := x } } <|
  .message 3 acknowledgementSchema (·.body.bind (·.acknowledge?))
    (fun x m => { m with body := some (.acknowledge x.text) }) <|
  .message 4 executionSchema (·.body.bind (·.execution?)) (fun x m => { m with body := some (.execution x) }) <|
  .message 5 preparationSchema (·.body.bind (·.preparation?)) (fun x m => { m with body := some (.preparation x) }) <|
  .message 6 noFieldsSchema (·.body.bind (·.postActions?)) (fun _ m => { m with body := some .postActions }) <|
  .message 7 noFieldsSchema (·.body.bind (·.cancel?)) (fun _ m => { m with body := some .cancel }) <|
  .done {}

instance : WireMessage OrchestratorFrame := { schema := orchestratorFrameSchema }

end Wire

end Custodian
