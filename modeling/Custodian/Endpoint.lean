import Custodian.Address
import Custodian.Settings

/-!
# Endpoints

`Endpoint` : how a connection to the orchestrator is to be made. `Endpoint.check` : what is wrong with its address
before any connection is tried; `Endpoint.refused` : what is said when none can be made.
-/

namespace Custodian

set_option autoImplicit false

/-- How often an idle connection is tested and how long an answer may take, in seconds. -/
structure KeepAlive where
  interval : Nat
  timeout : Nat
deriving DecidableEq, Inhabited

/-- The largest number of seconds. -/
def maxSeconds : Nat := 18446744073709551615

/-- Tests every `secs` seconds, unless that is zero; an answer may take twice as long. -/
def KeepAlive.every? (secs : Nat) : Option KeepAlive :=
  if secs = 0 then none else some ⟨secs, min (2 * secs) maxSeconds⟩

/-- How a connection is to be made; the time it may take is in milliseconds. -/
structure Endpoint where
  url : String
  tls : Bool
  keepAlive : Option KeepAlive
  connectTimeout : Nat
deriving DecidableEq, Inhabited

namespace Endpoint

/-- An address without the white space around it, and with the usual times. Whether the connection is secret depends on
the scheme, in any case of letters. -/
def ofUrl (url : String) : Endpoint :=
  let url := Text.trim url
  ⟨url, (url.toList.take 8).map Char.toLower = "https://".toList, KeepAlive.every? 10, 30000⟩

/-- The endpoint that settings describe. -/
def ofSettings (s : Settings) : Endpoint :=
  { ofUrl s.url with keepAlive := KeepAlive.every? s.keepAlive, connectTimeout := 1000 * s.connectTimeout }

/-- Refuses what is no address, and for a secret connection a host that no certificate can name. -/
def check (e : Endpoint) : Except Error Unit :=
  if !Address.isAddress e.url then .error (.invalidAddress (e.url ++ ": invalid URI"))
  else if e.tls ∧ !Address.isServerName (Address.hostOf e.url) then
    .error (.connectionFailed "TLS config error: transport error")
  else .ok ()

/-- What is said when no connection can be made. -/
def refused (e : Endpoint) : Error := .connectionFailed (e.url ++ ": transport error")

/-- What comes of connecting where nothing listens. -/
def connectInVain (e : Endpoint) : Error :=
  match e.check with
  | .error r => r
  | .ok _ => e.refused

end Endpoint

end Custodian
