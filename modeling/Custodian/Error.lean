import Custodian.Text.Quoted

/-!
# Errors

`Error` : what can go wrong between an agent and its orchestrator, `Error.message` its wording. `Status` : how a remote
call is refused, `Status.text` its wording.
-/

namespace Custodian

set_option autoImplicit false

/-- Why an operation of the agent failed. -/
inductive Error where
  /-- The address of the orchestrator cannot be used. -/
  | invalidAddress (reason : String)
  /-- No connection to the orchestrator. -/
  | connectionFailed (reason : String)
  /-- The agent's identity is incomplete. -/
  | invalidRegistration (reason : String)
  /-- The other end of a stream is gone. -/
  | streamClosed
  /-- A stream or call ended with an error. -/
  | streamError (reason : String)
  /-- The file at `path` could not be sent. -/
  | transferFailed (path reason : String)
  /-- A fragment could not be received. -/
  | downloadFailed (reason : String)
  /-- A setting has no meaning. -/
  | config (reason : String)
deriving DecidableEq, Inhabited

/-- The wording of an error. -/
def Error.message : Error → String
  | .invalidAddress r => "invalid orchestrator address: " ++ r
  | .connectionFailed r => "connection failed: " ++ r
  | .invalidRegistration r => "invalid registration information: " ++ r
  | .streamClosed => "stream closed unexpectedly"
  | .streamError r => "stream error: " ++ r
  | .transferFailed p r => "there was an error while trying to transfer: " ++ p ++ ": " ++ r
  | .downloadFailed r => "failed to download fragment: " ++ r
  | .config r => "config error: " ++ r

/-- How a remote call is refused: a numeric code and a message. -/
structure Status where
  code : Int
  message : String
deriving DecidableEq, Inhabited

namespace Status

/-- The names of the codes from zero on. -/
def codeNames : List String :=
  ["Ok", "Cancelled", "Unknown", "InvalidArgument", "DeadlineExceeded", "NotFound", "AlreadyExists",
    "PermissionDenied", "ResourceExhausted", "FailedPrecondition", "Aborted", "OutOfRange", "Unimplemented",
    "Internal", "Unavailable", "DataLoss", "Unauthenticated"]

/-- The name of a code; codes outside the list are unknown. -/
def codeName (code : Int) : String :=
  if 0 ≤ code then codeNames.getD code.toNat "Unknown" else "Unknown"

/-- The wording of a status without details or metadata. -/
def text (s : Status) : String :=
  "status: " ++ codeName s.code ++ ", message: " ++ Text.quoted s.message ++
    ", details: [], metadata: MetadataMap \x7b headers: \x7b\x7d \x7d"

/-- A refused call is an error of its stream. -/
def toError (s : Status) : Error := .streamError s.text

end Status

end Custodian
