import Provisioner.Config.Read
import Provisioner.Http.Uri
import Provisioner.Text.Pem
import Provisioner.Yaml.Untyped
/-!
# Connection files

Where the cluster is and who is asking is told by connection files: clusters, users, and contexts
that join one of each.  Several documents or files count as one, in which the first part of each
name wins.  A connection needs a current context with a cluster and a user that are there, and
credentials that can be used.
-/

namespace Provisioner

open Json (Decoder Fields)
open Manifest (FileError joinPath)
open Text.Utf8 (Bytes)

/-- A cluster in a connection file. -/
structure ClusterEntry where
  server : Option String := none
  /-- Certificates of the authority, in base64. -/
  authorityData : Option String := none
  /-- File with the certificates of the authority. -/
  authorityFile : Option String := none
  proxy : Option String := none

/-- A user in a connection file. -/
structure UserEntry where
  username : Option String := none
  password : Option String := none
  token : Option String := none
  tokenFile : Option String := none
  certificateData : Option String := none
  certificateFile : Option String := none
  keyData : Option String := none
  keyFile : Option String := none
  /-- Whether a provider is to be asked for credentials. -/
  provider : Bool := false
  /-- Whether a program is to be asked for credentials, when there are no others. -/
  program : Bool := false

/-- A context in a connection file. -/
structure ContextEntry where
  cluster : String
  user : Option String := none

/-- A connection file. -/
structure Kubeconfig where
  clusters : List (String × Option ClusterEntry) := []
  users : List (String × Option UserEntry) := []
  contexts : List (String × Option ContextEntry) := []
  current : Option String := none
  kind : Option String := none
  apiVersion : Option String := none

namespace Kubeconfig

/-! ## Reading -/

/-- The fields of a record; null is a record without any. -/
def record : Decoder Fields
  | .null => .ok ⟨[]⟩
  | value => Fields.opened value

/-- A list; null is an empty one. -/
def listOf {α : Type} (d : Decoder α) : Decoder (List α)
  | .null => .ok []
  | value => Decoder.list d value

/-- Texts by name. -/
def texts : Decoder (List (String × String))
  | .null => .ok []
  | value => Decoder.map Decoder.string value

/-- Check an extension. -/
def checkExtension : Decoder Unit := fun value => do
  let fields ← record value
  let _ ← fields.required "name" Decoder.string
  let _ ← fields.required "extension" Decoder.any

/-- Check the extensions of a record. -/
def checkExtensions (fields : Fields) : Except Json.DecodeError Unit := do
  let _ ← fields.optional "extensions" (listOf checkExtension)

/-- Read a cluster. -/
def decodeCluster : Decoder ClusterEntry := fun value => do
  let fields ← record value
  let _ ← fields.optional "insecure-skip-tls-verify" Decoder.bool
  let _ ← fields.optional "disable-compression" Decoder.bool
  let _ ← fields.optional "tls-server-name" Decoder.string
  checkExtensions fields
  return {
    server := ← fields.optional "server" Decoder.string
    authorityData := ← fields.optional "certificate-authority-data" Decoder.string
    authorityFile := ← fields.optional "certificate-authority" Decoder.string
    proxy := ← fields.optional "proxy-url" Decoder.string }

/-- Check a provider of credentials. -/
def checkProvider : Decoder Unit := fun value => do
  let fields ← record value
  let _ ← fields.required "name" Decoder.string
  let _ ← fields.defaulted "config" texts []

/-- Check when a program may ask its user. -/
def checkMode : Decoder Unit := fun value => do
  let mode ← Decoder.string value
  if ["Never", "IfAvailable", "Always"].contains mode then return ()
  else throw (.unknown mode)

/-- Check a program that gives credentials. -/
def checkProgram : Decoder Unit := fun value => do
  let fields ← record value
  let _ ← fields.optional "apiVersion" Decoder.string
  let _ ← fields.optional "command" Decoder.string
  let _ ← fields.optional "args" (listOf Decoder.string)
  let _ ← fields.optional "env" (listOf texts)
  let _ ← fields.optional "interactiveMode" checkMode
  let _ ← fields.defaulted "provideClusterInfo" Decoder.bool false

/-- Read a user. -/
def decodeUser : Decoder UserEntry := fun value => do
  let fields ← record value
  let _ ← fields.optional "as" Decoder.string
  let _ ← fields.optional "as-groups" (listOf Decoder.string)
  let provider ← fields.optional "auth-provider" checkProvider
  let program ← fields.optional "exec" checkProgram
  return {
    username := ← fields.optional "username" Decoder.string
    password := ← fields.optional "password" Decoder.string
    token := ← fields.optional "token" Decoder.string
    tokenFile := ← fields.optional "tokenFile" Decoder.string
    certificateData := ← fields.optional "client-certificate-data" Decoder.string
    certificateFile := ← fields.optional "client-certificate" Decoder.string
    keyData := ← fields.optional "client-key-data" Decoder.string
    keyFile := ← fields.optional "client-key" Decoder.string
    provider := provider.isSome
    program := program.isSome }

/-- Read a context. -/
def decodeContext : Decoder ContextEntry := fun value => do
  let fields ← record value
  let _ ← fields.optional "namespace" Decoder.string
  checkExtensions fields
  return {
    cluster := ← fields.required "cluster" Decoder.string
    user := ← fields.optional "user" Decoder.string }

/-- Read an entry with a name; its content is under a name of its own. -/
def decodeNamed {α : Type} (content : String) (d : Decoder α) : Decoder (String × Option α) :=
  fun value => do
    let fields ← record value
    return (← fields.required "name" Decoder.string, ← fields.optional content d)

/-- Check the preferences of a reader. -/
def checkPreferences : Decoder Unit := fun value => do
  let fields ← record value
  let _ ← fields.optional "colors" Decoder.bool
  checkExtensions fields

/-- Read a connection file. -/
def decode : Decoder Kubeconfig := fun value => do
  let fields ← record value
  let _ ← fields.optional "preferences" checkPreferences
  checkExtensions fields
  return {
    clusters := ← fields.lenient "clusters" (Decoder.list (decodeNamed "cluster" decodeCluster)) []
    users := ← fields.lenient "users" (Decoder.list (decodeNamed "user" decodeUser)) []
    contexts := ← fields.lenient "contexts" (Decoder.list (decodeNamed "context" decodeContext)) []
    current := ← fields.optional "current-context" Decoder.string
    kind := ← fields.optional "kind" Decoder.string
    apiVersion := ← fields.optional "apiVersion" Decoder.string }

/-! ## Several as one -/

/-- Entries with those of other names after them. -/
def addNew {α : Type} (entries next : List (String × α)) : List (String × α) :=
  entries ++ next.filter fun (name, _) => !(entries.map Prod.fst).contains name

/-- Whether two texts differ when both are given. -/
def differ (a b : Option String) : Bool :=
  match a, b with
  | some a, some b => a != b
  | _, _ => false

/-- Two connection files as one; they have to be of one kind and version. -/
def merge (first next : Kubeconfig) : Except String Kubeconfig :=
  if differ first.kind next.kind then .error "the kinds differ"
  else if differ first.apiVersion next.apiVersion then .error "the versions differ"
  else .ok {
    clusters := addNew first.clusters next.clusters
    users := addNew first.users next.users
    contexts := addNew first.contexts next.contexts
    current := first.current <|> next.current
    kind := first.kind <|> next.kind
    apiVersion := first.apiVersion <|> next.apiVersion }

/-- A path relative to the directory of a file. -/
def beside (file path : String) : String :=
  match Text.cutLast '/' file with
  | some (directory, _) => joinPath (directory ++ "/") path
  | none => path

/-- A connection file with its paths relative to the directory that it is in. -/
def located (file : String) (k : Kubeconfig) : Kubeconfig where
  clusters := k.clusters.map fun (name, c) =>
    (name, c.map fun c => { c with authorityFile := c.authorityFile.map (beside file) })
  users := k.users.map fun (name, u) =>
    (name, u.map fun u => { u with
      tokenFile := u.tokenFile.map (beside file)
      certificateFile := u.certificateFile.map (beside file)
      keyFile := u.keyFile.map (beside file) })
  contexts := k.contexts
  current := k.current
  kind := k.kind
  apiVersion := k.apiVersion

/-- Several connection files as one. -/
def mergeAll (first : Kubeconfig) : List Kubeconfig → Except String Kubeconfig
  | [] => .ok first
  | next :: rest => do (← merge first next).mergeAll rest

/-- What reading the file at a path gives. -/
abbrev Files : Type := String → Except FileError Bytes

/-- The connection file of the documents of a text. -/
def ofText (text : String) : Except String Kubeconfig := do
  let documents ← (Yaml.untypedDocuments text.toList).mapError (·.message)
  let parts ← documents.mapM fun document => (decode document.canonical).mapError (·.message)
  mergeAll {} parts

/-- The connection file at a path. -/
def read (files : Files) (path : String) : Except String Kubeconfig :=
  match files path with
  | .error e => .error (Config.fileMessage e)
  | .ok bytes =>
    match Text.Utf8.string? bytes with
    | none => .error "not a text"
    | some text => do return (← ofText text).located path

/-- The connection files at several paths as one. -/
def readAll (files : Files) (first : Kubeconfig) : List String → Except String Kubeconfig
  | [] => .ok first
  | path :: rest => do readAll files (← first.merge (← read files path)) rest

/-! ## Connecting -/

/-- How to reach a cluster. -/
structure Connection where
  /-- Address of the API server. -/
  server : String
  /-- How a request shows who is asking. -/
  authorization : Option String
deriving DecidableEq

/-- Why there is no connection. -/
inductive Failure where
  /-- The connection file at a path cannot be read. -/
  | read (path detail : String)
  /-- The connection file does not say how to reach a cluster. -/
  | load (detail : String)
  /-- No connection file was found that does. -/
  | infer (detail : String)
  /-- What the connection file says cannot be used. -/
  | create (detail : String)
deriving DecidableEq

/-- What went wrong, as an error. -/
def Failure.toError : Failure → Error
  | .read path detail =>
    .internal "create_client" ("failed to read kubeconfig " ++ path ++ ": " ++ detail)
  | .load detail => .internal "create_client" ("failed to load kubeconfig: " ++ detail)
  | .infer detail => .internal "create_client" ("failed to infer config: " ++ detail)
  | .create detail => .internal "create_client" ("failed to create client: " ++ detail)

/-- Bytes given in base64, or in a file; the given ones come first. -/
def dataOrFile (files : Files) (data file : Option String) : Except String Bytes :=
  match data, file with
  | some data, _ =>
    match Text.Base64.decodeString? data with
    | some bytes => .ok bytes
    | none => .error "invalid base64"
  | none, some path => (files path).mapError Config.fileMessage
  | none, none => .error "neither data nor a file"

/-- The certificates of the authority of a cluster. -/
def authority (files : Files) (c : ClusterEntry) : Except String (List Bytes) :=
  if c.authorityData.isNone ∧ c.authorityFile.isNone then .ok []
  else do
    let bytes ← dataOrFile files c.authorityData c.authorityFile
    match Text.Utf8.decode? bytes with
    | none => .error "invalid certificates"
    | some text =>
      match Text.Pem.blocks? text with
      | none => .error "invalid certificates"
      | some blocks => .ok (Text.Pem.certificates blocks)

/-- The proxy in front of a cluster: its own, or that of the environment. -/
def proxy? (env : Environment) (c : ClusterEntry) : Option String :=
  c.proxy.filter (· ≠ "") <|> env.nonempty? "HTTP_PROXY" <|> env.nonempty? "http_proxy" <|>
    env.nonempty? "HTTPS_PROXY" <|> env.nonempty? "https_proxy"

/-- The cluster and the user of the current context. -/
def current? (k : Kubeconfig) : Except String (ClusterEntry × UserEntry) := do
  let name ← match k.current with
    | some name => pure name
    | none => throw "no current context"
  let context ← match (k.contexts.lookup name).join with
    | some context => pure context
    | none => throw ("no context " ++ name)
  let cluster ← match (k.clusters.lookup context.cluster).join with
    | some cluster => pure cluster
    | none => throw ("no cluster " ++ context.cluster)
  match context.user with
  | none => return (cluster, {})
  | some user =>
    match (k.users.lookup user).join with
    | some entry => return (cluster, entry)
    | none => throw ("no user " ++ user)

/-- What a connection file says about the current context: the server, the certificates of its
authority, the proxy in front of it, and the user. -/
structure Settings where
  server : String
  authority : List Bytes
  proxy : Option String
  user : UserEntry

/-- Load the settings of the current context. -/
def load (files : Files) (env : Environment) (k : Kubeconfig) : Except String Settings := do
  let (cluster, user) ← k.current?
  match cluster.server with
  | none => throw "no server"
  | some server =>
    if !Http.Uri.isReference server then throw "invalid server"
    let authority ← authority files cluster
    let proxy := proxy? env cluster
    if proxy.any fun address => !Http.Uri.isReference address then throw "invalid proxy"
    return { server, authority, proxy, user }

/-- Check the certificate and the key of a user.  Those that cannot be read count as not given. -/
def checkIdentity (files : Files) (user : UserEntry) : Except String Unit :=
  match dataOrFile files user.certificateData user.certificateFile,
      dataOrFile files user.keyData user.keyFile with
  | .ok certificate, .ok key =>
    match (Text.Utf8.decode? (key ++ [10] ++ certificate)).bind Text.Pem.blocks? with
    | none => .error "invalid identity"
    | some blocks =>
      if (Text.Pem.certificates blocks).isEmpty ∨ ¬ Text.Pem.hasPrivateKey blocks then
        .error "no key or no certificate"
      else .ok ()
  | _, _ => .ok ()

/-- How a user shows who is asking: by a login, a token, or a token in a file.  Providers and
programs that give credentials are not supported. -/
def authorization (files : Files) (user : UserEntry) : Except String (Option String) :=
  if user.provider then .error "providers are not supported"
  else match user.username, user.password, user.token, user.tokenFile with
  | some name, some password, _, _ =>
    .ok (some ("Basic " ++
      Text.Base64.encodeString (Text.Utf8.bytes (name ++ ":" ++ password))))
  | _, _, some token, _ => .ok (some ("Bearer " ++ token))
  | _, _, none, some path =>
    match files path with
    | .error e => .error (Config.fileMessage e)
    | .ok bytes =>
      match Text.Utf8.string? bytes with
      | some token => .ok (some ("Bearer " ++ token))
      | none => .error "invalid token"
  | _, _, none, none =>
    if user.program then .error "programs are not supported" else .ok none

/-- Make a connection of settings.  Proxies are not supported. -/
def create (files : Files) (s : Settings) : Except String Connection := do
  if s.proxy.isSome then throw "proxies are not supported"
  if !s.authority.all Text.Pem.isStructure then throw "invalid certificate"
  checkIdentity files s.user
  return { server := s.server, authorization := ← authorization files s.user }

/-- The paths in a list with colons between them. -/
def pathsOf (text : String) : List String := (Text.pieces ':' text).filter (· ≠ "")

/-- The paths of the connection files that the environment points to: those of a list, or the one
in the home directory. -/
def inferredPaths (env : Environment) : List String :=
  match pathsOf ((env "KUBECONFIG").getD "") with
  | [] => ((env.nonempty? "HOME").map fun home => joinPath home ".kube/config").toList
  | paths => paths

/-- The connection files that the environment points to, as one. -/
def inferred (files : Files) (env : Environment) : Except String Kubeconfig :=
  match inferredPaths env with
  | [] => .error "no home directory"
  | paths => readAll files {} paths

/-- The settings of the connection file at a path, or of the one that the environment points to. -/
def settings (files : Files) (env : Environment) : Option String → Except Failure Settings
  | some path =>
    match read files path with
    | .error detail => .error (.read path detail)
    | .ok k => (k.load files env).mapError .load
  | none => (do (← inferred files env).load files env).mapError .infer

/-- The paths of the files with credentials that a connection file names. -/
def credentialPaths (k : Kubeconfig) : List String :=
  (k.clusters.filterMap Prod.snd).flatMap (fun c => c.authorityFile.toList) ++
    (k.users.filterMap Prod.snd).flatMap fun u =>
      u.tokenFile.toList ++ u.certificateFile.toList ++ u.keyFile.toList

/-- The paths of all the files that tell how to reach the cluster of the connection file at a path,
or of the one that the environment points to. -/
def paths (files : Files) (env : Environment) (path : Option String) : List String :=
  let own := (path.map fun path => [path]).getD (inferredPaths env)
  own ++ own.flatMap fun path =>
    match read files path with
    | .ok k => k.credentialPaths
    | .error _ => []

/-- Connect to the cluster of the connection file at a path, or of the one that the environment
points to.  Nothing is sent. -/
def connect (files : Files) (env : Environment) (path : Option String) :
    Except Failure Connection := do
  let s ← settings files env path
  (create files s).mapError .create

end Kubeconfig

end Provisioner
