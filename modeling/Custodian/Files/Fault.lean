/-!
# Faults of files

`Fault` : why an operation on a file failed, `Fault.message` its wording.
-/

namespace Custodian

set_option autoImplicit false

/-- Why an operation on a file failed. -/
inductive Fault where
  | notFound
  | alreadyExists
  | notADirectory
  | isADirectory
  | nameTooLong
  /-- The path holds a zero byte. -/
  | zeroByte
  /-- Nothing is open to be written to. -/
  | notOpen
  /-- The bytes are no text. -/
  | notText
  /-- A store of another kind gives a reason of its own. -/
  | other (reason : String)
deriving DecidableEq, Inhabited

/-- The wording of a fault. -/
def Fault.message : Fault → String
  | .notFound => "No such file or directory (os error 2)"
  | .alreadyExists => "File exists (os error 17)"
  | .notADirectory => "Not a directory (os error 20)"
  | .isADirectory => "Is a directory (os error 21)"
  | .nameTooLong => "File name too long (os error 36)"
  | .zeroByte => "file name contained an unexpected NUL byte"
  | .notOpen => "no restore file is open"
  | .notText => "stream did not contain valid UTF-8"
  | .other r => r

end Custodian
