import Custodian.Error
import Custodian.Text.Blank
import Custodian.Text.Number

/-!
# Settings

`Settings` : how an agent reaches its orchestrator and sends its files. `Settings.override` : the settings after those
variables of the environment that are set. `Settings.check` : which settings an agent cannot work with.
-/

namespace Custodian

set_option autoImplicit false

/-- The variables of the environment: the value of each that is set. Values are texts: a variable that is set to something
that is not Unicode is left out. -/
abbrev Environment := String → Option String

/-- How an agent reaches its orchestrator and sends its files. -/
structure Settings where
  url : String := "http://127.0.0.1:3000"
  apiVersion : String := "4.0"
  maxAttempts : Nat := 20
  chunkSize : Nat := 512000
  keepAlive : Nat := 10
  connectTimeout : Nat := 30
deriving DecidableEq, Inhabited

namespace Settings

/-- The variable that overrides the address of the orchestrator. -/
def urlVariable : String := "BRO_ORCHESTRATOR_URL"

/-- The variable that overrides the version of the interface. -/
def apiVersionVariable : String := "BRO_API_VERSION"

/-- The variable that overrides how often an agent registers in vain. -/
def maxAttemptsVariable : String := "BRO_MAX_REGISTRATION_ATTEMPTS"

/-- The variable that overrides the size of chunks. -/
def chunkSizeVariable : String := "BRO_CHUNK_SIZE"

/-- Numbers of attempts are below this bound. -/
def maxAttemptsBound : Nat := 4294967296

/-- Sizes of chunks are below this bound. -/
def chunkSizeBound : Nat := 18446744073709551616

/-- Numbers of seconds are below this bound. -/
def secondsBound : Nat := 18446744073709551616

/-- Refuses chunks of no bytes and a blank version of the interface. -/
def check (s : Settings) : Except Error Unit :=
  if s.chunkSize = 0 then .error (.config "chunk_size must be greater than 0")
  else if Text.isBlank s.apiVersion then .error (.config "api_version must not be empty")
  else .ok ()

/-- The number below `bound` in a variable, or `default` if it is not set; white space around it does not count. -/
def numberVariable (env : Environment) (name : String) (bound default : Nat) : Except Error Nat :=
  match env name with
  | none => .ok default
  | some v =>
    match Text.readNat bound (Text.trim v) with
    | some n => .ok n
    | none => .error (.config (name ++ " has an invalid value: " ++ v))

/-- The settings after the environment; they have to be usable then. -/
def override (s : Settings) (env : Environment) : Except Error Settings := do
  let maxAttempts ← numberVariable env maxAttemptsVariable maxAttemptsBound s.maxAttempts
  let chunkSize ← numberVariable env chunkSizeVariable chunkSizeBound s.chunkSize
  let s := { s with
    url := (env urlVariable).getD s.url
    apiVersion := (env apiVersionVariable).getD s.apiVersion
    maxAttempts := maxAttempts
    chunkSize := chunkSize }
  s.check
  return s

theorem check_eq_ok (s : Settings) : s.check = .ok () ↔ 0 < s.chunkSize ∧ Text.isBlank s.apiVersion = false := by
  unfold check
  split
  · next hsize => simp [hsize]
  · next hsize =>
    split
    · next hblank => simp [hblank]
    · next hblank => simp [Nat.pos_of_ne_zero hsize, hblank]

end Settings

end Custodian
