import Custodian.Proofs.Messages

/-!
# Messages one after another

* `Dict.overlay`, `Fragment.merge` and the like : what a message becomes when another follows it, record by record;
* `Schema.Faithful.blank_merge`, `*_merge` : a schema merges messages as their records do;
* `decode?_append` : bytes of two messages in a row are read as what the schema makes of them;
* `MessageType.decode_append` : of every type, they are read as the first message with the second merged into it.
-/

namespace Custodian

set_option autoImplicit false

/-! ## What follows a message -/

/-- What a value becomes when another follows it: the default one does not count. -/
def latest {β : Type} [DecidableEq β] (default old new : β) : β := if new = default then old else new

namespace Dict

/-- The entries of both dictionaries; where they share a key, those of the second. -/
def overlay (d e : Dict) : Dict := d.insertAll e.entries

theorem get?_insertAll {l : List (String × String)} (h : Sorted l) (d : Dict) (k : String) :
    (d.insertAll l).get? k = (l.lookup k).or (d.get? k) := by
  induction l generalizing d with
  | nil => rfl
  | cons e l ih =>
    obtain ⟨k', v⟩ := e
    obtain ⟨hlt, hl⟩ := List.pairwise_cons.1 h
    have hinsert : (d.insertAll ((k', v) :: l)).get? k = (l.lookup k).or ((d.insert k' v).get? k) := ih hl _
    rw [hinsert, get?_insert, lookup_cons_ite]
    by_cases hk : k = k'
    · -- later entries have other keys
      have hnone : l.lookup k = none := by
        rw [List.lookup_eq_none_iff]
        intro p hp
        exact bne_iff_ne.2 fun heq => String.lt_irrefl k (by simpa [← hk, ← heq] using hlt p hp)
      rw [if_pos hk, if_pos hk, hnone, Option.none_or, Option.some_or]
    · rw [if_neg hk, if_neg hk]

/-- A look-up goes to the second dictionary first. -/
theorem get?_overlay (d e : Dict) (k : String) : (d.overlay e).get? k = (e.get? k).or (d.get? k) :=
  get?_insertAll e.sorted d k

end Dict

/-- Fields replace those before unless they are empty. -/
def SoftwareVersion.merge (a b : SoftwareVersion) : SoftwareVersion where
  productName := latest "" a.productName b.productName
  productNumber := latest "" a.productNumber b.productNumber
  revision := latest "" a.revision b.revision
  productionDate := latest "" a.productionDate b.productionDate
  description := latest "" a.description b.description
  kind := latest "" a.kind b.kind
  commercialVersion := latest "" a.commercialVersion b.commercialVersion
  semanticVersion := latest "" a.semanticVersion b.semanticVersion

def Fragment.merge (a b : Fragment) : Fragment where
  id := latest "" a.id b.id
  version := latest "" a.version b.version
  sizeInBytes := latest "" a.sizeInBytes b.sizeInBytes
  custom := a.custom.overlay b.custom

def Metadata.merge (a b : Metadata) : Metadata where
  agentId := latest "" a.agentId b.agentId
  fragment := a.fragment.merge Fragment.merge b.fragment
  backupName := latest "" a.backupName b.backupName

def FileChunk.merge (a b : FileChunk) : FileChunk where
  fileName := latest "" a.fileName b.fileName
  content := latest .empty a.content b.content
  checksum := latest "" a.checksum b.checksum

/-- Of a choice the same member is merged, and another one takes its place. -/
def BackupBody.merge : BackupBody → BackupBody → BackupBody
  | .metadata m, .metadata n => .metadata (m.merge n)
  | .file .main c, .file .main d => .file .main (c.merge d)
  | .file .custom c, .file .custom d => .file .custom (c.merge d)
  | _, y => y

def BackupFrame.merge (a b : BackupFrame) : BackupFrame where
  dataType := latest 0 a.dataType b.dataType
  body := a.body.merge BackupBody.merge b.body

/-- The two kinds of files are members of a choice. -/
def RestoreBody.merge : RestoreBody → RestoreBody → RestoreBody
  | ⟨.main, c⟩, ⟨.main, d⟩ => ⟨.main, c.merge d⟩
  | ⟨.custom, c⟩, ⟨.custom, d⟩ => ⟨.custom, c.merge d⟩
  | _, y => y

def RestoreFrame.merge (a b : RestoreFrame) : RestoreFrame where
  dataType := latest 0 a.dataType b.dataType
  body := a.body.merge RestoreBody.merge b.body

def Register.merge (a b : Register) : Register where
  agentId := latest "" a.agentId b.agentId
  version := a.version.merge SoftwareVersion.merge b.version
  apiVersion := latest "" a.apiVersion b.apiVersion
  scope := latest "" a.scope b.scope

def StageComplete.merge (a b : StageComplete) : StageComplete where
  success := latest false a.success b.success
  message := latest "" a.message b.message
  agentId := latest "" a.agentId b.agentId

def AgentBody.merge : AgentBody → AgentBody → AgentBody
  | .register r, .register r' => .register (r.merge r')
  | .stageComplete s, .stageComplete s' => .stageComplete (s.merge s')
  | _, y => y

def AgentFrame.merge (a b : AgentFrame) : AgentFrame where
  action := latest 0 a.action b.action
  messageType := latest 0 a.messageType b.messageType
  body := a.body.merge AgentBody.merge b.body

/-- Fragments that follow are put behind those before. -/
def Execution.merge (a b : Execution) : Execution where
  backupName := latest "" a.backupName b.backupName
  version := a.version.merge SoftwareVersion.merge b.version
  fragments := a.fragments ++ b.fragments

def Preparation.merge (a b : Preparation) : Preparation where
  toExecution := a.toExecution.merge b.toExecution
  backupType := latest "" a.backupType b.backupType

def Wire.Acknowledgement.merge (a b : Wire.Acknowledgement) : Wire.Acknowledgement where
  text := latest "" a.text b.text

theorem Wire.Acknowledgement.text_merge (a b : Wire.Acknowledgement) : (a.merge b).text = latest "" a.text b.text := rfl

def OrchestratorBody.merge : OrchestratorBody → OrchestratorBody → OrchestratorBody
  | .acknowledge s, .acknowledge s' => .acknowledge (latest "" s s')
  | .execution e, .execution e' => .execution (e.merge e')
  | .preparation p, .preparation p' => .preparation (p.merge p')
  | _, y => y

def OrchestratorFrame.merge (a b : OrchestratorFrame) : OrchestratorFrame where
  action := latest 0 a.action b.action
  messageType := latest 0 a.messageType b.messageType
  body := a.body.merge OrchestratorBody.merge b.body

namespace Wire

/-! ## Schemas -/

namespace Schema

variable {α : Type}

/-- Whatever follows a message without fields is itself. -/
theorem Faithful.blank_merge {s : Schema α} (h : s.Faithful) {merge : α → α → α}
    (hmerge : ∀ a b, s.merge a b = merge a b) (b : α) : merge s.blank b = b :=
  (hmerge s.blank b).symm.trans (h.merge_blank b)

end Schema

@[simp]
theorem Scalar.renew_eq_latest {β : Type} [DecidableEq β] (kind : Scalar β) (x y : β) :
    kind.renew x y = latest kind.blank x y := by
  simp only [renew, latest, isBlank_iff]

theorem softwareVersion_merge (a b : SoftwareVersion) : softwareVersionSchema.merge a b = a.merge b := by
  simp [softwareVersionSchema, SoftwareVersion.merge, Scalar.blank]

theorem fragment_merge (a b : Fragment) : fragmentSchema.merge a b = a.merge b := by
  simp [fragmentSchema, Fragment.merge, Scalar.blank, Dict.overlay]

theorem metadata_merge (a b : Metadata) : metadataSchema.merge a b = a.merge b := by
  obtain ⟨agentId, _ | f, backupName⟩ := a <;> obtain ⟨agentId', _ | f', backupName'⟩ := b <;>
    simp [metadataSchema, Metadata.merge, Scalar.blank, fragment_merge, fragment_faithful.blank_merge fragment_merge]

/-! ### Data frames -/

theorem fileChunk_merge (a b : FileChunk) : fileChunkSchema.merge a b = a.merge b := by
  simp [fileChunkSchema, FileChunk.merge, Scalar.blank]

theorem backupFrame_merge (a b : BackupFrame) : backupFrameSchema.merge a b = a.merge b := by
  obtain ⟨dataType, _ | m | ⟨_ | _, c⟩⟩ := a <;> obtain ⟨dataType', _ | m' | ⟨_ | _, c'⟩⟩ := b <;>
    simp [backupFrameSchema, BackupFrame.merge, BackupBody.merge, BackupBody.metadata?, BackupBody.chunk?,
      Scalar.blank, metadata_merge, metadata_faithful.blank_merge metadata_merge, fileChunk_merge,
      fileChunk_faithful.blank_merge fileChunk_merge]

theorem restoreFrame_merge (a b : RestoreFrame) : restoreFrameSchema.merge a b = a.merge b := by
  obtain ⟨dataType, _ | ⟨_ | _, c⟩⟩ := a <;> obtain ⟨dataType', _ | ⟨_ | _, c'⟩⟩ := b <;>
    simp [restoreFrameSchema, RestoreFrame.merge, RestoreBody.merge, RestoreBody.chunk?, Scalar.blank,
      fileChunk_merge, fileChunk_faithful.blank_merge fileChunk_merge]

/-! ### Control frames -/

theorem register_merge (a b : Register) : registerSchema.merge a b = a.merge b := by
  obtain ⟨agentId, _ | v, apiVersion, scope⟩ := a <;> obtain ⟨agentId', _ | v', apiVersion', scope'⟩ := b <;>
    simp [registerSchema, Register.merge, Scalar.blank, softwareVersion_merge,
      softwareVersion_faithful.blank_merge softwareVersion_merge]

theorem stageComplete_merge (a b : StageComplete) : stageCompleteSchema.merge a b = a.merge b := by
  simp [stageCompleteSchema, StageComplete.merge, Scalar.blank]

theorem agentFrame_merge (a b : AgentFrame) : agentFrameSchema.merge a b = a.merge b := by
  obtain ⟨action, messageType, _ | r | s⟩ := a <;> obtain ⟨action', messageType', _ | r' | s'⟩ := b <;>
    simp [agentFrameSchema, AgentFrame.merge, AgentBody.merge, AgentBody.register?, AgentBody.stageComplete?,
      Scalar.blank, register_merge, register_faithful.blank_merge register_merge, stageComplete_merge,
      stageComplete_faithful.blank_merge stageComplete_merge]

theorem execution_merge (a b : Execution) : executionSchema.merge a b = a.merge b := by
  obtain ⟨backupName, _ | v, fragments⟩ := a <;> obtain ⟨backupName', _ | v', fragments'⟩ := b <;>
    simp [executionSchema, Execution.merge, Scalar.blank, softwareVersion_merge,
      softwareVersion_faithful.blank_merge softwareVersion_merge]

theorem preparation_merge (a b : Preparation) : preparationSchema.merge a b = a.merge b := by
  obtain ⟨⟨backupName, _ | v, fragments⟩, backupType⟩ := a <;>
    obtain ⟨⟨backupName', _ | v', fragments'⟩, backupType'⟩ := b <;>
    simp [preparationSchema, Preparation.merge, Execution.merge, Scalar.blank, softwareVersion_merge,
      softwareVersion_faithful.blank_merge softwareVersion_merge]

theorem acknowledgement_merge (a b : Acknowledgement) : acknowledgementSchema.merge a b = a.merge b := by
  simp [acknowledgementSchema, Acknowledgement.merge, Scalar.blank]

theorem orchestratorFrame_merge (a b : OrchestratorFrame) : orchestratorFrameSchema.merge a b = a.merge b := by
  obtain ⟨action, messageType, _ | s | e | p | _ | _⟩ := a <;>
    obtain ⟨action', messageType', _ | s' | e' | p' | _ | _⟩ := b <;>
    simp [orchestratorFrameSchema, OrchestratorFrame.merge, OrchestratorBody.merge, OrchestratorBody.acknowledge?,
      OrchestratorBody.execution?, OrchestratorBody.preparation?, OrchestratorBody.postActions?,
      OrchestratorBody.cancel?, Scalar.blank, Acknowledgement.text_merge, acknowledgement_merge,
      acknowledgement_faithful.blank_merge acknowledgement_merge, execution_merge,
      execution_faithful.blank_merge execution_merge, preparation_merge,
      preparation_faithful.blank_merge preparation_merge]

namespace MessageType

/-- What a message of a type becomes when another follows it. -/
def merge : (t : MessageType) → t.Value → t.Value → t.Value
  | noFields => fun _ b => b
  | softwareVersion => SoftwareVersion.merge
  | register => Register.merge
  | stageComplete => StageComplete.merge
  | agentFrame => AgentFrame.merge
  | acknowledgement => Acknowledgement.merge
  | execution => Execution.merge
  | preparation => Preparation.merge
  | orchestratorFrame => OrchestratorFrame.merge
  | fragment => Fragment.merge
  | metadata => Metadata.merge
  | fileChunk => FileChunk.merge
  | backupFrame => BackupFrame.merge
  | restoreFrame => RestoreFrame.merge

theorem schema_merge (t : MessageType) (a b : t.Value) :
    (WireMessage.schema : Schema t.Value).merge a b = t.merge a b := by
  cases t with
  | noFields => rfl
  | softwareVersion => exact softwareVersion_merge a b
  | register => exact register_merge a b
  | stageComplete => exact stageComplete_merge a b
  | agentFrame => exact agentFrame_merge a b
  | acknowledgement => exact acknowledgement_merge a b
  | execution => exact execution_merge a b
  | preparation => exact preparation_merge a b
  | orchestratorFrame => exact orchestratorFrame_merge a b
  | fragment => exact fragment_merge a b
  | metadata => exact metadata_merge a b
  | fileChunk => exact fileChunk_merge a b
  | backupFrame => exact backupFrame_merge a b
  | restoreFrame => exact restoreFrame_merge a b

end MessageType

/-! ## Two messages in a row -/

/-- The fields of two messages are read one after the other, and the second ones are absorbed by what the first ones
have built. -/
theorem decode?_append {α : Type} [WireMessage α] {a b : α} {as bs : List UInt8}
    (hf : (WireMessage.schema : Schema α).Faithful) (ha : Written a as) (hb : Written b bs)
    (hsa : as.length < 2 ^ 64) (hsb : bs.length < 2 ^ 64) :
    decode? (as ++ bs) = some ((WireMessage.schema : Schema α).merge a b) := by
  obtain ⟨fs, hfs, rfl⟩ := ha
  obtain ⟨gs, hgs, rfl⟩ := hb
  have hfits := Schema.fits_of_writes WireMessage.valid hfs
  have hgits := Schema.fits_of_writes WireMessage.valid hgs
  have hread : readFields? (WireMessage.schema : Schema α).alwaysSized maxDepth [] (fieldBytes fs ++ fieldBytes gs) =
      some (fs ++ gs) := by
    rw [readFields?_fieldBytes (fun f hf => (hfits f hf).2) hsa,
      readFields?_fieldBytes_self (fun f hf => (hgits f hf).2) hsb]
    rfl
  have hfirst := Schema.absorb_of_writes WireMessage.valid hf.2 WireMessage.shallow hfs hsa
    (WireMessage.schema : Schema α).blank
  have hsecond := Schema.absorb_of_writes WireMessage.valid hf.2 WireMessage.shallow hgs hsb a
  change (readFields? _ maxDepth [] (fieldBytes fs ++ fieldBytes gs)).bind _ = _
  rw [hread, Option.bind_some, List.foldlM_append, hfirst, hf.merge_blank]
  exact hsecond

namespace MessageType

/-- **Messages in a row are merged.** Of every type, the bytes of two messages, each written in any way that it can be
and with no more of them than a length can count, are read together as the first message with the second merged into it.
-/
theorem decode_append (t : MessageType) (a b : t.Value) :
    (∀ as bs, Written a as → Written b bs → as.length < 2 ^ 64 → bs.length < 2 ^ 64 →
      decode? (as ++ bs) = some (t.merge a b)) ∧ Written a (encode a) ∧ Written b (encode b) := by
  refine ⟨fun as bs ha hb hsa hsb => ?_, written_encode a, written_encode b⟩
  rw [decode?_append t.faithful ha hb hsa hsb, t.schema_merge]

/-- Two frames with metadata of one fragment that share one key of its entries, and then one with a piece of a file. -/
theorem decode_append_shared_key :
    let f : Fragment := { id := "f1", sizeInBytes := "3", custom := .ofList [("k", "1"), ("x", "2")] }
    let g : Fragment := { version := "2", sizeInBytes := "4", custom := .ofList [("a", ""), ("k", "3")] }
    let m : BackupFrame := { body := some (.metadata { agentId := "a1", fragment := some f }) }
    let n : BackupFrame := { dataType := -1, body := some (.metadata { fragment := some g, backupName := "nightly" }) }
    let piece : BackupFrame := .ofPiece .main (.name "a")
    let merged : Fragment :=
      { id := "f1", version := "2", sizeInBytes := "4", custom := .ofList [("a", ""), ("k", "3"), ("x", "2")] }
    decode? (encode m ++ encode n) = some ({
      dataType := -1
      body := some (.metadata { agentId := "a1", fragment := some merged, backupName := "nightly" }) } : BackupFrame) ∧
      decode? (encode n ++ encode piece) = some piece := by
  intro f g m n piece merged
  have hm : (encode m).length < 2 ^ 64 := by decide +kernel
  have hn : (encode n).length < 2 ^ 64 := by decide +kernel
  have hpiece : (encode piece).length < 2 ^ 64 := by decide +kernel
  have hsame := (decode_append .backupFrame m n).1 _ _ (written_encode m) (written_encode n) hm hn
  have hother := (decode_append .backupFrame n piece).1 _ _ (written_encode n) (written_encode piece) hn hpiece
  have hmerged : m.merge n = {
      dataType := -1
      body := some (.metadata { agentId := "a1", fragment := some merged, backupName := "nightly" }) } := by
    decide +kernel
  have hreplaced : n.merge piece = piece := by decide +kernel
  exact ⟨hsame.trans (congrArg some hmerged), hother.trans (congrArg some hreplaced)⟩

end MessageType

end Wire

end Custodian
