import Custodian.Proofs.Schema
import Custodian.Wire.Message

/-!
# Messages survive the wire

* `*_faithful` : of each type, a message is itself when it is merged into the one without fields;
* `MessageType` : all types of messages, with their values;
* `Written` : the bytes that a message can be written as; `MessageType.round_trip` : all of them are read as the
  message, and have the size told without writing it.
-/

namespace Custodian.Wire

set_option autoImplicit false

open Schema

/-! ## Records -/

theorem noFields_faithful : noFieldsSchema.Faithful := ⟨fun _ => rfl, trivial⟩

theorem softwareVersion_faithful : softwareVersionSchema.Faithful := by
  refine ⟨fun m => ?_, trivial⟩
  cases m
  simp [softwareVersionSchema]

theorem entry_faithful : entrySchema.Faithful := by
  refine ⟨fun m => ?_, trivial⟩
  cases m
  simp [entrySchema]

theorem fragment_faithful : fragmentSchema.Faithful := by
  refine ⟨fun m => ?_, entry_faithful, trivial⟩
  cases m
  simp [fragmentSchema, Dict.insertAll_entries]

theorem metadata_faithful : metadataSchema.Faithful := by
  refine ⟨fun m => ?_, fragment_faithful, trivial⟩
  obtain ⟨agentId, _ | f, backupName⟩ := m <;>
    simp [metadataSchema, fragment_faithful.merge_blank]

/-! ## Data frames -/

theorem fileChunk_faithful : fileChunkSchema.Faithful := by
  refine ⟨fun m => ?_, trivial⟩
  cases m
  simp [fileChunkSchema]

theorem backupFrame_faithful : backupFrameSchema.Faithful := by
  refine ⟨fun m => ?_, metadata_faithful, fileChunk_faithful, fileChunk_faithful, trivial⟩
  obtain ⟨dataType, _ | d | ⟨role, c⟩⟩ := m
  · simp [backupFrameSchema]
  · simp [backupFrameSchema, BackupBody.metadata?, BackupBody.chunk?, metadata_faithful.merge_blank]
  · cases role <;>
      simp [backupFrameSchema, BackupBody.metadata?, BackupBody.chunk?, fileChunk_faithful.merge_blank]

theorem restoreFrame_faithful : restoreFrameSchema.Faithful := by
  refine ⟨fun m => ?_, fileChunk_faithful, fileChunk_faithful, trivial⟩
  obtain ⟨dataType, _ | ⟨role, c⟩⟩ := m
  · simp [restoreFrameSchema]
  · cases role <;>
      simp [restoreFrameSchema, RestoreBody.chunk?, fileChunk_faithful.merge_blank]

/-! ## Control frames -/

theorem register_faithful : registerSchema.Faithful := by
  refine ⟨fun m => ?_, softwareVersion_faithful, trivial⟩
  obtain ⟨agentId, _ | v, apiVersion, scope⟩ := m <;>
    simp [registerSchema, softwareVersion_faithful.merge_blank]

theorem stageComplete_faithful : stageCompleteSchema.Faithful := by
  refine ⟨fun m => ?_, trivial⟩
  cases m
  simp [stageCompleteSchema]

theorem agentFrame_faithful : agentFrameSchema.Faithful := by
  refine ⟨fun m => ?_, register_faithful, stageComplete_faithful, trivial⟩
  obtain ⟨action, messageType, _ | r | s⟩ := m <;>
    simp [agentFrameSchema, AgentBody.register?, AgentBody.stageComplete?, register_faithful.merge_blank,
      stageComplete_faithful.merge_blank]

theorem execution_faithful : executionSchema.Faithful := by
  refine ⟨fun m => ?_, softwareVersion_faithful, fragment_faithful, trivial⟩
  obtain ⟨backupName, _ | v, fragments⟩ := m <;>
    simp [executionSchema, softwareVersion_faithful.merge_blank]

theorem preparation_faithful : preparationSchema.Faithful := by
  refine ⟨fun m => ?_, softwareVersion_faithful, fragment_faithful, trivial⟩
  obtain ⟨⟨backupName, _ | v, fragments⟩, backupType⟩ := m <;>
    simp [preparationSchema, softwareVersion_faithful.merge_blank]

theorem acknowledgement_faithful : acknowledgementSchema.Faithful := by
  refine ⟨fun m => ?_, trivial⟩
  cases m
  simp [acknowledgementSchema]

theorem orchestratorFrame_faithful : orchestratorFrameSchema.Faithful := by
  refine ⟨fun m => ?_, acknowledgement_faithful, execution_faithful, preparation_faithful, noFields_faithful,
    noFields_faithful, trivial⟩
  obtain ⟨action, messageType, _ | s | e | p | _ | _⟩ := m <;>
    simp [orchestratorFrameSchema, OrchestratorBody.acknowledge?, OrchestratorBody.execution?,
      OrchestratorBody.preparation?, OrchestratorBody.postActions?, OrchestratorBody.cancel?,
      acknowledgement_faithful.merge_blank, execution_faithful.merge_blank, preparation_faithful.merge_blank]

/-! ## All types -/

/-- The types of messages. Those without fields are one type, and so are the pieces of the two kinds of files. -/
inductive MessageType where
  | noFields
  | softwareVersion
  | register
  | stageComplete
  | agentFrame
  | acknowledgement
  | execution
  | preparation
  | orchestratorFrame
  | fragment
  | metadata
  | fileChunk
  | backupFrame
  | restoreFrame

namespace MessageType

/-- The messages of a type. -/
def Value : MessageType → Type
  | noFields => NoFields
  | softwareVersion => SoftwareVersion
  | register => Register
  | stageComplete => StageComplete
  | agentFrame => AgentFrame
  | acknowledgement => Acknowledgement
  | execution => Execution
  | preparation => Preparation
  | orchestratorFrame => OrchestratorFrame
  | fragment => Fragment
  | metadata => Metadata
  | fileChunk => FileChunk
  | backupFrame => BackupFrame
  | restoreFrame => RestoreFrame

instance : (t : MessageType) → WireMessage t.Value
  | noFields => inferInstanceAs (WireMessage NoFields)
  | softwareVersion => inferInstanceAs (WireMessage SoftwareVersion)
  | register => inferInstanceAs (WireMessage Register)
  | stageComplete => inferInstanceAs (WireMessage StageComplete)
  | agentFrame => inferInstanceAs (WireMessage AgentFrame)
  | acknowledgement => inferInstanceAs (WireMessage Acknowledgement)
  | execution => inferInstanceAs (WireMessage Execution)
  | preparation => inferInstanceAs (WireMessage Preparation)
  | orchestratorFrame => inferInstanceAs (WireMessage OrchestratorFrame)
  | fragment => inferInstanceAs (WireMessage Fragment)
  | metadata => inferInstanceAs (WireMessage Metadata)
  | fileChunk => inferInstanceAs (WireMessage FileChunk)
  | backupFrame => inferInstanceAs (WireMessage BackupFrame)
  | restoreFrame => inferInstanceAs (WireMessage RestoreFrame)

theorem faithful (t : MessageType) : (WireMessage.schema : Schema t.Value).Faithful := by
  cases t with
  | noFields => exact noFields_faithful
  | softwareVersion => exact softwareVersion_faithful
  | register => exact register_faithful
  | stageComplete => exact stageComplete_faithful
  | agentFrame => exact agentFrame_faithful
  | acknowledgement => exact acknowledgement_faithful
  | execution => exact execution_faithful
  | preparation => exact preparation_faithful
  | orchestratorFrame => exact orchestratorFrame_faithful
  | fragment => exact fragment_faithful
  | metadata => exact metadata_faithful
  | fileChunk => exact fileChunk_faithful
  | backupFrame => exact backupFrame_faithful
  | restoreFrame => exact restoreFrame_faithful

end MessageType

/-! ## Round trips -/

section
variable {α : Type} [WireMessage α] {m : α} {bs : List UInt8}

/-- The bytes that a message can be written as: the entries of its dictionaries come in any order. -/
def Written (m : α) (bs : List UInt8) : Prop := ∃ fs, WireMessage.schema.Writes m fs ∧ bs = fieldBytes fs

theorem written_encode (m : α) : Written m (encode m) := ⟨_, writes_fields _ m, rfl⟩

theorem encodedLength_of_written (h : Written m bs) (hsize : bs.length < 2 ^ 64) : encodedLength m = bs.length := by
  obtain ⟨fs, hfs, rfl⟩ := h
  exact (length_of_writes WireMessage.valid hfs hsize).symm

theorem decode?_of_written (hf : (WireMessage.schema : Schema α).Faithful) (h : Written m bs)
    (hsize : bs.length < 2 ^ 64) : decode? bs = some m := by
  obtain ⟨fs, hfs, rfl⟩ := h
  have hfits := fits_of_writes WireMessage.valid hfs
  have hread := readFields?_fieldBytes_self (fun f hf => (hfits f hf).2) hsize maxDepth
  have habsorb := absorb_of_writes WireMessage.valid hf.2 WireMessage.shallow hfs hsize
    (WireMessage.schema : Schema α).blank
  change (readFields? _ maxDepth [] (fieldBytes fs)).bind _ = _
  rw [hread, Option.bind_some, habsorb, hf.merge_blank]

end

namespace MessageType

/-- **Messages survive the wire.** Of every type, all bytes that a message can be written as are read as the message,
and have the size told without writing it; what is written is among them. -/
theorem round_trip (t : MessageType) (m : t.Value) : Written m (encode m) ∧
    ∀ bs, Written m bs → bs.length < 2 ^ 31 → decode? bs = some m ∧ encodedLength m = bs.length := by
  refine ⟨written_encode m, fun bs h hsize => ?_⟩
  have hlong : bs.length < 2 ^ 64 := Nat.lt_trans hsize (by decide)
  exact ⟨decode?_of_written t.faithful h hlong, encodedLength_of_written h hlong⟩

/-- A frame with a negative data type and a fragment whose entries are written in another order than they are kept in.
-/
theorem round_trip_reversed_entries :
    let f : Fragment := { id := "f1", custom := .ofList [("a", ""), ("b", "2")] }
    let m : BackupFrame := { dataType := -1, body := some (.metadata { agentId := "a1", fragment := some f }) }
    let entries : List Field := [("b", "2"), ("a", "")].map fun e => messageField 4 (entrySchema.fields e)
    let fragment : List Field := ⟨1, Scalar.text.payload "f1"⟩ :: entries
    let metadata : List Field := [⟨1, Scalar.text.payload "a1"⟩, messageField 2 fragment]
    let bs := fieldBytes [⟨1, .varint 18446744073709551615⟩, messageField 2 metadata]
    bs ≠ encode m ∧ Written m bs ∧ bs.length < 2 ^ 31 ∧ decode? bs = some m ∧ encodedLength m = bs.length := by
  intro f m entries fragment metadata bs
  have hfragment : fragmentSchema.Writes f fragment :=
    ⟨_, rfl, _, rfl, _, rfl, [("b", "2"), ("a", "")], entries, [], rfl, .swap ..,
      messageFields_map (writes_fields entrySchema) 4 _, rfl⟩
  have hmetadata : metadataSchema.Writes { agentId := "a1", fragment := some f } metadata :=
    ⟨_, rfl, [messageField 2 fragment], [], rfl, .cons ⟨_, hfragment, rfl⟩ .nil, [], rfl, rfl⟩
  have hwritten : Written m bs :=
    ⟨_, ⟨_, rfl, [messageField 2 metadata], [], rfl, .cons ⟨_, hmetadata, rfl⟩ .nil, [], _, rfl, .nil, [], _, rfl, .nil,
      rfl⟩, rfl⟩
  have hsize : bs.length < 2 ^ 31 := by decide +kernel
  exact ⟨by decide +kernel, hwritten, hsize, (round_trip .backupFrame m).2 bs hwritten hsize⟩

end MessageType

end Custodian.Wire
