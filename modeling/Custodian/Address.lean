/-!
# Addresses

`isAddress` : whether a text can be the address of a service: a path, a host, or a scheme, a host and perhaps a path
and a query. `hostOf` : the host in an address. `isServerName` : whether a host can be named in a certificate, by a
domain name or by four numbers.
-/

namespace Custodian.Address

set_option autoImplicit false

/-! ## Schemes -/

/-- Characters of a scheme. -/
def isSchemeChar (c : Char) : Bool := c.isAlphanum || c = '+' || c = '-' || c = '.' || c = '~'

/-- The longest scheme. -/
def maxScheme : Nat := 64

/-- What a text starts with. -/
inductive Start where
  /-- A scheme, and what follows it. -/
  | scheme (rest : List Char)
  | noScheme
  /-- A scheme that is too long. -/
  | bad
deriving DecidableEq, Inhabited

/-- Looks for a scheme: characters of one and then a colon and two slashes. -/
def start (cs : List Char) : Start :=
  match cs.dropWhile isSchemeChar with
  | ':' :: '/' :: '/' :: rest => if maxScheme < (cs.takeWhile isSchemeChar).length then .bad else .scheme rest
  | _ => .noScheme

/-! ## Hosts -/

/-- Whether a host ends before a character. -/
def endsHost (c : Char) : Bool := c = '/' || c = '?' || c = '#'

/-- Characters of a host, its port and a user's name, other than the percent sign. -/
def isHostChar (c : Char) : Bool :=
  c.isAlphanum ||
    ['!', '$', '&', '\'', '(', ')', '*', '+', ',', '-', '.', ':', ';', '=', '@', '[', ']', '_', '~'].contains c

/-- What has been seen of a host. A bracketed number or a user's name starts the count of colons and percent signs
anew. -/
structure HostScan where
  colons : Nat := 0
  opened : Bool := false
  closed : Bool := false
  percent : Bool := false
deriving DecidableEq, Inhabited

/-- The most colons before a bracket ends. -/
def maxColons : Nat := 8

/-- Goes on by one character. -/
def HostScan.next (s : HostScan) (c : Char) : Option HostScan :=
  if c = ':' then if maxColons ≤ s.colons then none else some { s with colons := s.colons + 1 }
  else if c = '[' then if s.percent ∨ s.opened then none else some { s with opened := true }
  else if c = ']' then
    if !s.opened ∨ s.closed then none else some { s with closed := true, colons := 0, percent := false }
  else if c = '@' then some { s with colons := 0, percent := false }
  else if c = '%' then some { s with percent := true }
  else if isHostChar c then some s
  else none

/-- Whether characters are a host with perhaps a user before it and a port after it. No characters are one too. -/
def isHost (cs : List Char) : Bool :=
  match cs.foldlM HostScan.next {} with
  | none => false
  | some s => s.opened == s.closed && s.colons ≤ 1 && cs.getLast? ≠ some '@' && !s.percent

/-! ## Paths -/

/-- Characters of a query. Beyond ASCII all are. -/
def isQueryChar (c : Char) : Bool :=
  let n := c.toNat
  n = 0x21 || (0x24 ≤ n && n ≤ 0x3B) || n = 0x3D || (0x3F ≤ n && n ≠ 0x7F)

/-- Characters of a path. Beyond ASCII all are. -/
def isPathChar (c : Char) : Bool :=
  let n := c.toNat
  n = 0x21 || n = 0x22 || (0x24 ≤ n && n ≤ 0x3B) || n = 0x3D || (0x40 ≤ n && n ≤ 0x5F) || (0x61 ≤ n && n ≠ 0x7F)

/-- Whether characters are a query, up to the end or a number sign. -/
def isQuery : List Char → Bool
  | [] => true
  | c :: cs => c = '#' || (isQueryChar c && isQuery cs)

/-- Whether characters are a path with perhaps a query, up to the end or a number sign. -/
def isPath : List Char → Bool
  | [] => true
  | c :: cs => if c = '?' then isQuery cs else c = '#' || (isPathChar c && isPath cs)

/-! ## Addresses -/

/-- The longest address, in bytes. -/
def maxLength : Nat := 65534

/-- Whether a text can be an address. Without a scheme it is a host alone, or a path alone. -/
def isAddress (s : String) : Bool :=
  let cs := s.toList
  if maxLength < s.utf8ByteSize ∨ cs.isEmpty then false
  else if cs = ['*'] then true
  else if cs.head? = some '/' then isPath cs
  else
    match start cs with
    | .bad => false
    | .noScheme => !cs.any endsHost && isHost cs
    | .scheme rest =>
      let host := rest.takeWhile (!endsHost ·)
      !host.isEmpty && isHost host && isPath (rest.dropWhile (!endsHost ·))

/-- The host in the address of a service with a scheme, without user and port. -/
def hostOf (s : String) : List Char :=
  match start s.toList with
  | .scheme rest =>
    let all := rest.takeWhile (!endsHost ·)
    let host := (all.reverse.takeWhile (· ≠ '@')).reverse
    if host.head? = some '[' then host.takeWhile (· ≠ ']') ++ [']'] else host.takeWhile (· ≠ ':')
  | _ => []

/-! ## Server names -/

/-- Whether characters are a label of a domain name: not too long, letters, digits, underscores and hyphens, and the
latter neither first nor last. -/
def isLabel (l : List Char) : Bool :=
  !l.isEmpty && l.length ≤ 63 && l.all (fun c => c.isAlphanum || c = '_' || c = '-') && l.head? ≠ some '-' &&
    l.getLast? ≠ some '-'

/-- Whether characters are a domain name, perhaps with a point at its end. The last label has more than digits. -/
def isDomainName (cs : List Char) : Bool :=
  let labels := cs.splitOn '.'
  let full := if labels.getLast? = some [] then labels.dropLast else labels
  cs.length ≤ 253 && !full.isEmpty && full.all isLabel && !((full.getLastD []).all Char.isDigit)

/-- Whether characters are a number of up to 255 without superfluous zeros. -/
def isOctet (l : List Char) : Bool :=
  !l.isEmpty && l.length ≤ 3 && l.all Char.isDigit && (l.length = 1 || l.head? ≠ some '0') &&
    l.foldl (fun n c => 10 * n + (c.toNat - 48)) 0 ≤ 255

/-- Whether a host can be named in a certificate. -/
def isServerName (host : List Char) : Bool :=
  isDomainName host || ((host.splitOn '.').length = 4 && (host.splitOn '.').all isOctet)

end Custodian.Address
