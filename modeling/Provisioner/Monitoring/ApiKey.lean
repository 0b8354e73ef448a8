import Provisioner.Cluster.Call
import Provisioner.Http.Address
import Provisioner.Json.Reader
import Provisioner.Text.Base64
/-!
# Keys of the monitoring server

The monitoring server gives out keys for its interface to whoever knows the login of its
administrator, or already has such a key.
-/

namespace Provisioner.Monitoring

open Json (Fields Decoder)

/-- A monitoring server and the login of its administrator. -/
structure Server where
  /-- Address of the server; slashes that end it do not count where keys are made. -/
  endpoint : String := ""
  username : String := ""
  password : String := ""
deriving DecidableEq

/-- Where keys are made. -/
def Server.keysAddress (server : Server) : String :=
  Text.trimRight '/' server.endpoint ++ "/graph/api/auth/keys"

/-- How a caller shows who it is: by a key if it has one, by its login otherwise. -/
def Server.authorization (server : Server) : Option String → String
  | some key => "Bearer " ++ key
  | none => "Basic " ++
    Text.Base64.encodeString (Text.Utf8.bytes (server.username ++ ":" ++ server.password))

/-- The request for a new key of a name. -/
def Server.keyRequest (server : Server) (name : String) (key : Option String) : Http.Request where
  method := .post
  target := server.keysAddress
  contentType := some "application/json"
  authorization := some (server.authorization key)
  body := some (Json.ofMembers
    (Json.member "name" (.string name) ++ Json.member "role" (.string "Admin")))

/-- Whether a text can stand in the head of a request: a tab is the only control character. -/
def isHeadText (text : String) : Bool :=
  text.toList.all fun c => c == '\t' || (0x20 ≤ c.toNat && c.toNat != 0x7F)

/-- Whether a request can be sent. -/
def isSendable (request : Http.Request) : Bool :=
  Http.Address.isUsable request.target && (request.authorization.map isHeadText).getD true

/-- Read the answer that holds a new key. -/
def decodeKey : Decoder String := fun value => do
  (← Fields.closed ["key"] value).required "key" Decoder.string

/-- The key in the text of an answer. -/
def readKey (text : String) : Except Error String :=
  match Json.read text.toList with
  | .error e => .error (.http ("invalid api key response: " ++ e.message))
  | .ok value =>
    (decodeKey value).mapError fun e => .http ("invalid api key response: " ++ e.message)

/-- The key that an answer to a request for one holds. -/
def keyOf (target : String) : Except Http.Unreachable Http.Response → Except Error String
  | .error _ =>
    .error (.http ("POST " ++ target ++ ": error sending request for url (" ++ target ++ ")"))
  | .ok response =>
    if Http.isSuccess response.status then readKey response.body
    else .error (.http ("POST " ++ target ++ " returned " ++ Http.statusText response.status ++
      ": " ++ response.body))

/-- Make a new key of a name on the server. -/
def createKey (server : Server) (name : String) (key : Option String) : Work String :=
  let request := server.keyRequest name key
  if isSendable request then
    .ask (I := Platform) (.monitoring request) fun reply =>
      Program.ofExcept (keyOf request.target reply)
  else .fail (.http ("POST " ++ request.target ++ ": builder error"))

end Provisioner.Monitoring
