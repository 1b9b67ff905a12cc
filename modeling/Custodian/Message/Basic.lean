import Custodian.Bytes
import Custodian.Message.Dict

/-!
# Messages

What agent and orchestrator send each other: `AgentFrame` and `OrchestratorFrame` on the control channel, `BackupFrame`
and `RestoreFrame` on the data streams, and the records they carry. Codes of actions, message types and data types are
carried as they arrive, known or not; `Action.ofCode` reads an action.
-/

namespace Custodian

set_option autoImplicit false

/-! ## Codes -/

/-- What a command or an answer is about. -/
inductive Action where
  | register
  | backup
  | restore
  | cancel
deriving DecidableEq, Inhabited

namespace Action

/-- The number that stands for an action. -/
def code : Action → Int32
  | .register => 0
  | .backup => 1
  | .restore => 2
  | .cancel => 3

/-- The action a number stands for; numbers without a meaning count as registering. -/
def ofCode (n : Int32) : Action :=
  if n = 1 then .backup else if n = 2 then .restore else if n = 3 then .cancel else .register

theorem ofCode_code (a : Action) : ofCode a.code = a := by cases a <;> rfl

end Action

/-- The type of an agent's registration. -/
def registerType : Int32 := 0

/-- The type of an agent's report on a stage. -/
def stageCompleteType : Int32 := 1

/-- The type of a data frame that carries metadata. -/
def metadataType : Int32 := 0

/-- The type of a data frame that carries a piece of a main file. -/
def mainFileType : Int32 := 1

/-- The type of a data frame that carries a piece of a custom metadata file. -/
def customFileType : Int32 := 2

/-! ## Records -/

/-- What software an agent is, and in which version. -/
structure SoftwareVersion where
  productName : String := ""
  productNumber : String := ""
  revision : String := ""
  productionDate : String := ""
  description : String := ""
  kind : String := ""
  commercialVersion : String := ""
  semanticVersion : String := ""
deriving DecidableEq, Inhabited

/-- One unit of backup data and what the agent wants to remember about it. -/
structure Fragment where
  id : String := ""
  version : String := ""
  sizeInBytes : String := ""
  custom : Dict := .empty
deriving DecidableEq, Inhabited

/-- Which fragment of which backup of which agent a data call is about. -/
structure Metadata where
  agentId : String := ""
  fragment : Option Fragment := none
  backupName : String := ""
deriving DecidableEq, Inhabited

/-! ## Data streams -/

/-- Part of a file on its way; of the three fields one is in use. -/
structure FileChunk where
  fileName : String := ""
  content : ByteArray := .empty
  checksum : String := ""
deriving DecidableEq, Inhabited

/-- The two files that a fragment can have. -/
inductive FileRole where
  | main
  | custom
deriving DecidableEq, Inhabited

/-- The data type of frames with pieces of a file. -/
def FileRole.dataType : FileRole → Int32
  | .main => mainFileType
  | .custom => customFileType

/-- What a backup frame carries. -/
inductive BackupBody where
  | metadata (m : Metadata)
  | file (role : FileRole) (chunk : FileChunk)
deriving DecidableEq, Inhabited

/-- A frame of a backup call. -/
structure BackupFrame where
  dataType : Int32 := 0
  body : Option BackupBody := none
deriving DecidableEq, Inhabited

/-- What a restore frame carries. -/
structure RestoreBody where
  role : FileRole
  chunk : FileChunk
deriving DecidableEq, Inhabited

/-- A frame of a restore call. -/
structure RestoreFrame where
  dataType : Int32 := 0
  body : Option RestoreBody := none
deriving DecidableEq, Inhabited

/-- One piece of a file: its name, some of its bytes, or the digest of all of them. -/
inductive Piece where
  | name (text : String)
  | content (bytes : ByteArray)
  | checksum (digits : String)
deriving DecidableEq, Inhabited

namespace FileChunk

/-- The chunk that carries one piece. -/
def ofPiece : Piece → FileChunk
  | .name s => { fileName := s }
  | .content b => { content := b }
  | .checksum s => { checksum := s }

/-- The piece a chunk carries: a name goes before content, content before a checksum, and empty fields do not count. -/
def piece? (c : FileChunk) : Option Piece :=
  if c.fileName ≠ "" then some (.name c.fileName)
  else if c.content.size ≠ 0 then some (.content c.content)
  else if c.checksum ≠ "" then some (.checksum c.checksum)
  else none

end FileChunk

/-- The frame that sends a piece of one of a fragment's files. -/
def BackupFrame.ofPiece (role : FileRole) (p : Piece) : BackupFrame :=
  ⟨role.dataType, some (.file role (.ofPiece p))⟩

/-- The frame that hands back a piece of one of a fragment's files. -/
def RestoreFrame.ofPiece (role : FileRole) (p : Piece) : RestoreFrame :=
  ⟨role.dataType, some ⟨role, .ofPiece p⟩⟩

/-- The piece a frame hands back and the file it belongs to; the frame's data type plays no part. -/
def RestoreFrame.piece? (m : RestoreFrame) : Option (FileRole × Piece) :=
  m.body.bind fun b => b.chunk.piece?.map (b.role, ·)

/-! ## Control stream -/

/-- An agent introduces itself. -/
structure Register where
  agentId : String := ""
  version : Option SoftwareVersion := none
  apiVersion : String := ""
  scope : String := ""
deriving DecidableEq, Inhabited

/-- An agent reports the end of a stage. -/
structure StageComplete where
  success : Bool := false
  message : String := ""
  agentId : String := ""
deriving DecidableEq, Inhabited

/-- What an agent's control frame carries. -/
inductive AgentBody where
  | register (r : Register)
  | stageComplete (s : StageComplete)
deriving DecidableEq, Inhabited

/-- A control frame from an agent. -/
structure AgentFrame where
  action : Int32 := 0
  messageType : Int32 := 0
  body : Option AgentBody := none
deriving DecidableEq, Inhabited

/-- The names of a backup and what belongs to it. -/
structure Execution where
  backupName : String := ""
  version : Option SoftwareVersion := none
  fragments : List Fragment := []
deriving DecidableEq, Inhabited

/-- Announces an execution. -/
structure Preparation extends Execution where
  backupType : String := ""
deriving DecidableEq, Inhabited

/-- What an orchestrator's control frame carries. -/
inductive OrchestratorBody where
  | acknowledge (text : String)
  | execution (e : Execution)
  | preparation (p : Preparation)
  | postActions
  | cancel
deriving DecidableEq, Inhabited

/-- A control frame from an orchestrator. -/
structure OrchestratorFrame where
  action : Int32 := 0
  messageType : Int32 := 0
  body : Option OrchestratorBody := none
deriving DecidableEq, Inhabited

end Custodian
