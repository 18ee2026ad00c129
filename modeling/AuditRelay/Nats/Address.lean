import AuditRelay.Nats.Host

/-!
# Addresses of servers

A server is addressed by a scheme, a host and a port; a user, a path and more may stand around them.
An address that cannot be read, or is of a scheme that a client cannot speak, is refused before
anything is sent.

Blanks and control characters at the ends do not belong to an address, and tabs and line breaks do
not count anywhere. The schemes of the web are special: behind them any number of slashes leads to
the host, which has to be there and is a domain, and a backslash is as good as a slash.
-/

namespace AuditRelay.Nats

/-- An address. -/
structure Address where
  scheme : String
  /-- None for an address that names no machine. -/
  host : Option Host
  port : Option Nat
  deriving DecidableEq, Repr

namespace Address

/-- Why an address cannot be used. -/
inductive Fault where
  | noScheme
  | host (f : Host.Fault)
  | port
  /-- The address is well formed, but clients do not speak its scheme. -/
  | scheme (name : String)
  deriving DecidableEq, Repr

/-- What is said about a host. -/
def hostFault : Host.Fault → String
  | .empty => "empty host"
  | .character => "invalid domain character"
  | .domain => "invalid international domain name"
  | .four => "invalid IPv4 address"
  | .six => "invalid IPv6 address"

/-- What is said about an address. -/
def Fault.message : Fault → String
  | noScheme => "NATS server URL is invalid: relative URL without a base"
  | host f => "NATS server URL is invalid: " ++ hostFault f
  | port => "NATS server URL is invalid: invalid port number"
  | scheme name => "invalid scheme for NATS server URL: " ++ name

/-- The schemes that a client can speak. -/
def schemes : List String := ["nats", "tls", "ws", "wss"]

/-- The special schemes that need a host. -/
def webSchemes : List String := ["http", "https", "ws", "wss", "ftp"]

/-! ## The text of an address -/

/-- The characters of an address that count. -/
def relevant (s : String) : List Char :=
  let outer (c : Char) : Bool := c ≤ ' '
  (((s.toList.dropWhile outer).reverse.dropWhile outer).reverse).filter fun c =>
    c ≠ '\t' && c ≠ '\n' && c ≠ '\r'

/-- Splits a text at the first colon into a scheme, in small letters, and what follows. -/
def scheme? (cs : List Char) : Option (String × List Char) :=
  let name := cs.takeWhile fun c => c.isAlphanum || "+-.".toList.contains c
  match cs.drop name.length with
  | ':' :: rest =>
    if name.head?.any Char.isAlpha then some (String.ofList (name.map Char.toLower), rest) else none
  | _ => none

/-- Whether a character ends what stands in front of the path. -/
def endsAuthority (special : Bool) (c : Char) : Bool :=
  c == '/' || c == '?' || c == '#' || (special && c == '\\')

/-- Leaves out the user and the password, up to the last at sign; tells whether there are any. -/
def afterUser (special : Bool) (cs : List Char) : Except Fault (Bool × List Char) :=
  let authority := cs.takeWhile (!endsAuthority special ·)
  if !authority.contains '@' then .ok (false, cs)
  else
    let location := (authority.reverse.takeWhile (· ≠ '@')).reverse
    let user := authority.take (authority.length - location.length - 1)
    let rest := cs.drop (user.length + 1)
    if user.isEmpty && rest.head?.any (endsAuthority special) then .error (.host .empty)
    else .ok (!user.isEmpty && user ≠ [':'], rest)

/-- Splits off the host; a colon between brackets belongs to it. -/
def splitHost (special : Bool) : (inside : Bool) → List Char → List Char × List Char
  | _, [] => ([], [])
  | inside, c :: cs =>
    if (c == ':' && !inside) || endsAuthority special c then ([], c :: cs)
    else
      let (host, rest) := splitHost special (if inside then c != ']' else c == '[') cs
      (c :: host, rest)

/-- Reads a port; there need not be one behind the colon. -/
def portOf (cs : List Char) : Except Fault (Option Nat) :=
  let digits := cs.takeWhile Char.isDigit
  let n := digits.foldl (fun n c => 10 * n + (c.toNat - '0'.toNat)) 0
  if UInt16.size ≤ n || (cs.drop digits.length).head?.any (!"/\\?#".toList.contains ·) then
    .error .port
  else .ok (if digits.isEmpty then none else some n)

/-! ## Reading -/

/-- Reads what follows the slashes of an address. -/
def readAuthority (scheme : String) (special : Bool) (cs : List Char) : Except Fault Address := do
  let (hasUser, cs) ← afterUser special cs
  let (host, rest) := splitHost special false cs
  let hasPort := rest.head? == some ':'
  if host.isEmpty then
    if special || hasPort || hasUser then .error (.host .empty)
    else pure ⟨scheme, none, none⟩
  else
    let host ← (if special then Host.ofDomain host else Host.ofName host).mapError .host
    pure ⟨scheme, some host, ← if hasPort then portOf rest.tail else pure none⟩

/-- Whether a text is a letter and a colon or a bar, which name a drive. -/
def isDrive (cs : List Char) : Bool :=
  match cs with
  | [a, b] => a.isAlpha && (b == ':' || b == '|')
  | _ => false

/-- Reads what follows the scheme of files, which needs no host and has no port. -/
def readFile (scheme : String) (cs : List Char) : Except Fault Address :=
  let isSlash (c : Char) : Bool := c == '/' || c == '\\'
  let host := (cs.drop 2).takeWhile (!endsAuthority true ·)
  if !(cs.take 2).all isSlash || host.isEmpty || isDrive host then .ok ⟨scheme, none, none⟩
  else do pure ⟨scheme, some (← (Host.ofDomain host).mapError .host), none⟩

/-- Reads an address. -/
def parse (s : String) : Except Fault Address :=
  match scheme? (relevant s) with
  | none => .error .noScheme
  | some (scheme, cs) =>
    if webSchemes.contains scheme then
      readAuthority scheme true (cs.dropWhile fun c => c = '/' || c = '\\')
    else if scheme = "file" then readFile scheme cs
    else
      match cs with
      | '/' :: '/' :: cs => readAuthority scheme false cs
      | _ => .ok ⟨scheme, none, none⟩

/-- Whether a text contains another one. -/
def hasPart (part : List Char) : List Char → Bool
  | [] => part.isEmpty
  | c :: cs => part.isPrefixOf (c :: cs) || hasPart part cs

/-- The address of a server; without a scheme it is one of NATS. -/
def ofUrl (url : String) : Except Fault Address := do
  let a ← parse (if hasPart "://".toList url.toList then url else "nats://" ++ url)
  if schemes.contains a.scheme then pure a else .error (.scheme a.scheme)

/-- Whether nobody has to be asked where the server is. -/
def isKnown (a : Address) : Bool :=
  a.host.any Host.isKnown

end Address

end AuditRelay.Nats
