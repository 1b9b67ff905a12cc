import Custodian.Error
import Custodian.Message.Basic
import Custodian.Text.Blank

/-!
# Identity

`Registration` : who an agent is. `Identity` : the same with the version of the interface it speaks; every control
frame of the agent is built from it, `Identity.register` and `Identity.stageComplete`.
-/

namespace Custodian

set_option autoImplicit false

/-- The version of a product that has not been given one. -/
def unsetVersion : String := "0.0.0"

namespace SoftwareVersion

/-- The record of a product about which nothing is known. -/
def unknown : SoftwareVersion := { commercialVersion := unsetVersion, semanticVersion := unsetVersion }

/-- The fields that must not be empty, in the order in which they are checked, and how they are called. -/
def required (v : SoftwareVersion) : List (String × String) :=
  [("description", v.description), ("production date", v.productionDate), ("product name", v.productName),
    ("product number", v.productNumber), ("revision", v.revision), ("type", v.kind),
    ("commercial version", v.commercialVersion), ("semantic version", v.semanticVersion)]

/-- Refuses a version with an empty field. -/
def check (v : SoftwareVersion) : Except Error Unit :=
  match v.required.find? fun f => f.2 = "" with
  | some f => .error (.invalidRegistration ("software version " ++ f.1 ++ " is empty"))
  | none => .ok ()

end SoftwareVersion

/-- Who an agent is. -/
structure Registration where
  agentId : String
  scope : String
  version : SoftwareVersion
deriving DecidableEq, Inhabited

/-- Refuses a blank agent id and a version with an empty field. -/
def Registration.check (r : Registration) : Except Error Unit :=
  if Text.isBlank r.agentId then .error (.invalidRegistration "agent id is empty") else r.version.check

/-- Who an agent is and which version of the interface it speaks. -/
structure Identity extends Registration where
  apiVersion : String
deriving DecidableEq, Inhabited

namespace Identity

/-- The frame in which an agent introduces itself. -/
def register (i : Identity) : AgentFrame :=
  ⟨Action.register.code, registerType, some (.register ⟨i.agentId, some i.version, i.apiVersion, i.scope⟩)⟩

/-- The frame in which an agent reports the end of a stage. -/
def stageComplete (i : Identity) (success : Bool) (message : String) (action : Action) : AgentFrame :=
  ⟨action.code, stageCompleteType, some (.stageComplete ⟨success, message, i.agentId⟩)⟩

end Identity

/-- Whether an agent introduces itself in a frame; only the body tells. -/
def AgentFrame.isRegister (f : AgentFrame) : Bool :=
  match f.body with
  | some (.register _) => true
  | _ => false

theorem Identity.isRegister_register (i : Identity) : i.register.isRegister = true := rfl

theorem Identity.isRegister_stageComplete (i : Identity) (success : Bool) (message : String) (action : Action) :
    (i.stageComplete success message action).isRegister = false := rfl

end Custodian
