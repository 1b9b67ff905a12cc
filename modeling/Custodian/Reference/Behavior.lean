import Custodian.Behavior
import Custodian.Reference.Config

/-!
# The reference agent

`Reference.behavior` : an agent that backs up the files it is configured with, one fragment each, and restores what it
is told to, provided that the same product made the backup. Around a command it does nothing but report.
-/

namespace Custodian.Reference

set_option autoImplicit false

namespace Config

/-- Whether the product that made a backup is the agent's own: the same product name, number and revision. -/
def compatible (c : Config) (v : SoftwareVersion) : Bool :=
  c.version.revision = v.revision && c.version.productName = v.productName &&
    c.version.productNumber = v.productNumber

/-- The version of every fragment. -/
def fragmentVersion : String := "0.0.0"

/-- The fragment of the `n`-th file, counted from one, of a given size. -/
def fragment (c : Config) (n : Nat) (file : FragmentFile) (size : Nat) : BackupFragment :=
  let f : BackupFragment :=
    ⟨{ id := c.agentId ++ "_" ++ toString n, version := fragmentVersion, sizeInBytes := toString size }, file.path,
      none⟩
  match file.customPath with
  | some p => f.withCustomPath p
  | none => f

/-- What is said of a file that cannot be looked at: what went wrong, and why. -/
def fileTrouble (path : String) (f : Fault) : List String :=
  ["the file that was created for the backup has encountered a problem: " ++ path, f.message]

/-- The fragments of files from the `n`-th on, given the size of each. -/
def fragmentsOf (c : Config) (size : String → Except Fault Nat) : Nat → List FragmentFile →
    Except (List String) (List BackupFragment)
  | _, [] => .ok []
  | n, file :: files =>
    match size file.path with
    | .error f => .error (fileTrouble file.path f)
    | .ok k => (fragmentsOf c size (n + 1) files).map (c.fragment n file k :: ·)

/-- The fragments of all files, given the size of each. -/
def fragments (c : Config) (size : String → Except Fault Nat) : Except (List String) (List BackupFragment) :=
  c.fragmentsOf size 1 c.files

end Config

variable {ω : Type} {f : Facade}

/-- A routine that may fail; what went wrong comes first, and then why. -/
abbrev Attempt (ω : Type) (f : Facade) (α : Type) := ExceptT (List String) (Routine ω f) α

/-- The fragments of the files from the `n`-th on. -/
def fragmentsFrom (c : Config) : Nat → List FragmentFile → Attempt ω f (List BackupFragment)
  | _, [] => pure []
  | n, file :: files => do
    match ← ExceptT.lift (Routine.request (.fileSize file.path)) with
    | .error e => throw (Config.fileTrouble file.path e)
    | .ok size => return c.fragment n file size :: (← fragmentsFrom c (n + 1) files)

/-- Sends fragments, one call each, up to the first failure. -/
def sendAll : List BackupFragment → Attempt ω .backup Unit
  | [] => pure ()
  | b :: bs => do
    match ← ExceptT.lift (Routine.request (.send b)) with
    | .error e => throw [e.message]
    | .ok _ => sendAll bs

/-- Downloads fragments, one call each, up to the first that is not clean. -/
def downloadAll (dir : String) : List Fragment → Attempt ω .restore Unit
  | [] => pure ()
  | b :: bs => do
    match ← ExceptT.lift (Routine.request (.download b dir)) with
    | .error e => throw [e.message]
    | .ok o =>
      if o.mismatched ≠ [] then
        throw ["checksum mismatch for " ++ ", ".intercalate o.mismatched ++ " in fragment " ++ b.id]
      else if o.rejected ≠ [] then
        throw ["unsafe file names " ++ ", ".intercalate o.rejected ++ " in fragment " ++ b.id]
      else downloadAll dir bs

/-- All fragments are looked at before the first is sent. -/
def executeBackup (c : Config) : Routine ω .backup Unit := do
  let name : String ← Routine.request .look
  let result ← (do sendAll (← fragmentsFrom c 1 c.files) : Attempt ω .backup Unit).run
  match result with
  | .ok _ =>
    .report true ("The test service has completed a backup for " ++ name ++
      " and the data has been sent to the orchestrator")
  | .error e =>
    .report false ("The test service failed to complete a backup " ++ name ++ ", Cause: " ++ e.headD "" ++
      " The test service will not retry to send the backup")

/-- Nothing is downloaded for a backup of another product. -/
def executeRestore (c : Config) : Routine ω .restore Unit := do
  let session : Session ← Routine.request .look
  if c.compatible session.version then
    match ← (downloadAll c.downloadDir session.fragments).run with
    | .ok _ => .report true ("The test service has completed restore of backup: " ++ session.backupName)
    | .error e => .report false ("Restore failed due to <" ++ e.headD "" ++ ">")
  else .report false "Incompatible software version"

/-- What the reference agent does. -/
def behavior (c : Config) : Behavior ω where
  registration := c.registration
  executeBackup := executeBackup c
  executeRestore := executeRestore c

end Custodian.Reference
