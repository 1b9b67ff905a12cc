import Custodian.Message.Basic

/-!
# Fragments to be sent

`BackupFragment` : a fragment and the files it is made of.
-/

namespace Custodian

set_option autoImplicit false

/-- A fragment, the path of its main file and the path of its custom metadata file if it has one. Paths are texts: those
that are not Unicode are left out. -/
structure BackupFragment where
  fragment : Fragment
  path : String
  customPath : Option String := none
deriving DecidableEq, Inhabited

namespace BackupFragment

/-- Sets the path of the custom metadata file; the empty path stands for none. -/
def withCustomPath (f : BackupFragment) (path : String) : BackupFragment :=
  { f with customPath := if path = "" then none else some path }

/-- The files in the order in which they are sent. -/
def files (f : BackupFragment) : List (FileRole × String) :=
  (.main, f.path) :: (f.customPath.map (FileRole.custom, ·)).toList

end BackupFragment

end Custodian
