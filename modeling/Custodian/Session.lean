import Custodian.Identity

/-!
# Sessions

`Session` : what an agent remembers of the command at hand.
-/

namespace Custodian

set_option autoImplicit false

/-- The backup that the command is about, and for a restore the fragments and the version of the product that made
it. -/
structure Session where
  backupName : String := ""
  fragments : List Fragment := []
  version : SoftwareVersion := .unknown
deriving DecidableEq, Inhabited

namespace Session

/-- A backup begins: only the name changes. -/
def startBackup (s : Session) (name : String) : Session := { s with backupName := name }

/-- A restore begins. -/
def startRestore (e : Execution) : Session := ⟨e.backupName, e.fragments, e.version.getD .unknown⟩

/-- A backup has ended: only the name is forgotten. -/
def clearBackup (s : Session) : Session := { s with backupName := "" }

/-- A restore has ended: everything is forgotten. -/
def clearRestore (_ : Session) : Session := {}

end Session

end Custodian
