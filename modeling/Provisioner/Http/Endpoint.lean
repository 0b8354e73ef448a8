import Provisioner.Http
import Provisioner.Http.Target
/-!
# Endpoints

Where the server of an address listens, and what every path on it begins with.  An endpoint is
reached without encryption, so only an address with the scheme for that has one.
-/

namespace Provisioner.Http

open Text.Utf8 (Bytes)

/-- Where a server listens, and what the paths on it begin with. -/
structure Endpoint where
  /-- Name or number of the host, in brackets where the number holds colons. -/
  host : String
  /-- Number of the service on the host. -/
  service : Nat
  /-- Path of the address, with the parameters that follow it. -/
  path : String
deriving DecidableEq

namespace Endpoint

/-- The service of a server whose address does not name one. -/
def standardService : Nat := 80

/-- Characters of an address that stand for themselves in the head of a request. -/
def isPlain (c : Char) : Bool :=
  '!' ≤ c && c ≤ '~' && !"\"<>\x7b\x7d".toList.contains c && c.toNat != 0x60

/-- A path as it is written in the head of a request. -/
def escapePath (path : List Char) : List Char :=
  path.flatMap fun c =>
    if isPlain c then [c]
    else (Text.Utf8.encodeChar c).flatMap fun b =>
      ['%', Form.hexDigit (b.toNat / 16), Form.hexDigit (b.toNat % 16)]

/-- The endpoint of an address. -/
def ofAddress? (address : String) : Option Endpoint := do
  let (scheme, rest) ← Address.scheme? (Address.clean address.toList)
  if scheme != "http" then failure
  let rest := rest.dropWhile Address.isSlash
  let authority := rest.takeWhile fun c => !(Address.isSlash c || c == '?' || c == '#')
  let (host, service) := Address.splitService (Address.withoutUser authority)
  let service ← match service with
    | none | some [] => some standardService
    | some digits => Address.natural? 10 digits
  return {
    host := String.ofList host
    service
    path := String.ofList (escapePath ((rest.drop authority.length).takeWhile (· != '#'))) }

/-- The name that a request gives the server. -/
def name (e : Endpoint) : String :=
  if e.service = standardService then e.host else e.host ++ ":" ++ toString e.service

/-- What a request to the endpoint itself asks for. -/
def target (e : Endpoint) : String :=
  if Text.startsWith "/" e.path then e.path else "/" ++ e.path

/-- What a request for a path on the endpoint, with parameters, asks for. -/
def targetOn (e : Endpoint) (path : String) (query : List (String × String)) : String :=
  Text.trimRight '/' e.path ++ path ++
    if query.isEmpty then "" else "?" ++ String.ofList (Form.encode query)

end Endpoint

end Provisioner.Http
