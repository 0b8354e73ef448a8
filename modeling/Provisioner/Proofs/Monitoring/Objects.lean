import Provisioner.Monitoring.Objects
import Provisioner.Proofs.Json.Members
import Provisioner.Proofs.Text.Base64
import Provisioner.Proofs.Text.Utf8
/-!
# The secret and the agent

What the two objects of the monitoring stack say, read off their documents.  The secret holds a
login and a password in base64, and the agent refers to the secret by its name and by the names of
its parts.
-/

namespace Provisioner

open Resource (textAt?)

/-- The text that a part of a secret holds: what its base64 stands for, as UTF-8. -/
def Resource.secretText? (r : Resource) (part : String) : Option String :=
  ((textAt? ["data", part] r.body).bind Text.Base64.decodeString?).bind Text.Utf8.string?

namespace Monitoring

/-- The resource is the secret of a name in a namespace, with a login and a password. -/
structure HoldsLogin (r : Resource) (ns login password : String) : Prop where
  /-- What the resource is, is what its document says. -/
  document : Resource.ofJson r.body = .ok r
  kind : r.isKind "" "v1" "Secret" = true
  type : textAt? ["type"] r.body = some "Opaque"
  ns : textAt? ["metadata", "namespace"] r.body = some ns
  username : r.secretText? "username" = some login
  password : r.secretText? "password" = some password

/-- A part of the login that a target writes with: it is found in the secret, where it is the
text. -/
def RefersTo (target : Json) (part : String) (secret : Resource) (text : String) : Prop :=
  textAt? ["basicAuth", part, "name"] target = some secret.name ∧
    ∃ key, textAt? ["basicAuth", part, "key"] target = some key ∧
      secret.secretText? key = some text

/-- The resource is an agent beside the secret that writes to one server, with the login and the
password that the secret holds. -/
structure WritesWith (r secret : Resource) (login password : String) : Prop where
  /-- What the resource is, is what its document says. -/
  document : Resource.ofJson r.body = .ok r
  kind : r.isKind "operator.victoriametrics.com" "v1beta1" "VMAgent" = true
  ns : textAt? ["metadata", "namespace"] r.body = textAt? ["metadata", "namespace"] secret.body
  authorized : ∃ target, r.body.at? ["spec", "remoteWrite"] = some (.array [target]) ∧
    RefersTo target "username" secret login ∧ RefersTo target "password" secret password

/-! ## The secret -/

section Secret

variable (name ns login password : String)

/-- The secret with a login and a password, as a resource. -/
def loginSecret : Resource where
  group := ""
  version := "v1"
  kind := "Secret"
  name := name
  ns := (some ns).filter (· != "")
  body := (credentials name ns login password).encode

/-- What the document of the secret says of itself. -/
lemma textAt?_loginSecret :
    textAt? ["apiVersion"] (loginSecret name ns login password).body = some "v1" ∧
      textAt? ["kind"] (loginSecret name ns login password).body = some "Secret" ∧
      textAt? ["type"] (loginSecret name ns login password).body = some "Opaque" ∧
      textAt? ["metadata", "name"] (loginSecret name ns login password).body = some name ∧
      textAt? ["metadata", "namespace"] (loginSecret name ns login password).body = some ns := by
  simp [textAt?, loginSecret, credentials, Secret.encode, ObjectMeta.encode, Secret.kind,
    ResourceKind.members, ResourceKind.apiVersion]

lemma ofJson_loginSecret :
    Resource.ofJson (loginSecret name ns login password).body =
      .ok (loginSecret name ns login password) := by
  obtain ⟨hversion, hkind, -, hname, hns⟩ := textAt?_loginSecret name ns login password
  unfold Resource.ofJson
  rw [hversion, hkind, hname, hns]
  rfl

lemma secretResource_credentials :
    secretResource (credentials name ns login password) =
      .ok (loginSecret name ns login password) :=
  ofJson_loginSecret name ns login password

/-- Both parts of the login are in base64. -/
lemma textAt?_data_loginSecret :
    textAt? ["data", "username"] (loginSecret name ns login password).body =
        some (Text.Base64.encodeString (Text.Utf8.bytes login)) ∧
      textAt? ["data", "password"] (loginSecret name ns login password).body =
        some (Text.Base64.encodeString (Text.Utf8.bytes password)) := by
  simp [textAt?, loginSecret, credentials, Secret.encode, Secret.kind, ResourceKind.members,
    Json.ofMap, Json.Members.find?, usernameKey, passwordKey, Secret.encodeBytes]

lemma secretText?_of_textAt? {r : Resource} {part text : String}
    (h : textAt? ["data", part] r.body =
      some (Text.Base64.encodeString (Text.Utf8.bytes text))) :
    r.secretText? part = some text := by
  rw [Resource.secretText?, h]
  simp

lemma holdsLogin_loginSecret :
    HoldsLogin (loginSecret name ns login password) ns login password := by
  obtain ⟨-, -, htype, -, hns⟩ := textAt?_loginSecret name ns login password
  obtain ⟨husername, hpassword⟩ := textAt?_data_loginSecret name ns login password
  exact {
    document := ofJson_loginSecret name ns login password
    kind := rfl
    type := htype
    ns := hns
    username := secretText?_of_textAt? husername
    password := secretText?_of_textAt? hpassword }

end Secret

/-! ## The agent -/

section Agent

variable (secret ns address : String)

/-- The agent that writes to the server at an address, as a resource. -/
def agentResource : Resource where
  group := "operator.victoriametrics.com"
  version := "v1beta1"
  kind := "VMAgent"
  name := "pmm-vmagent-" ++ secret
  ns := (some ns).filter (· != "")
  body := agentDocument secret ns address

/-- What the document of the agent says of itself. -/
lemma textAt?_agentDocument :
    textAt? ["apiVersion"] (agentDocument secret ns address) =
        some "operator.victoriametrics.com/v1beta1" ∧
      textAt? ["kind"] (agentDocument secret ns address) = some "VMAgent" ∧
      textAt? ["metadata", "name"] (agentDocument secret ns address) =
        some ("pmm-vmagent-" ++ secret) ∧
      textAt? ["metadata", "namespace"] (agentDocument secret ns address) = some ns := by
  simp [textAt?, agentDocument, agentApiVersion]

lemma agent_eq : agent secret ns address = .ok (agentResource secret ns address) := by
  obtain ⟨hversion, hkind, hname, hns⟩ := textAt?_agentDocument secret ns address
  have hsplit : splitApiVersion "operator.victoriametrics.com/v1beta1" =
      ("operator.victoriametrics.com", "v1beta1") := by decide +kernel
  unfold agent Resource.ofJson
  rw [hversion, hkind, hname, hns]
  simp only [hsplit]
  rfl

/-- The agent writes to one server. -/
lemma at?_remoteWrite :
    Json.at? ["spec", "remoteWrite"] (agentDocument secret ns address) =
      some (.array [remoteWrite secret address]) := by
  simp [agentDocument, agentSpec]

/-- It finds each part of the login in the secret, under the name of that part. -/
lemma textAt?_basicAuth :
    (textAt? ["basicAuth", "username", "name"] (remoteWrite secret address) = some secret ∧
      textAt? ["basicAuth", "username", "key"] (remoteWrite secret address) = some "username") ∧
    textAt? ["basicAuth", "password", "name"] (remoteWrite secret address) = some secret ∧
      textAt? ["basicAuth", "password", "key"] (remoteWrite secret address) = some "password" := by
  simp [textAt?, remoteWrite, secretPart, usernameKey, passwordKey]

lemma writesWith_agentResource (login password : String) :
    WritesWith (agentResource secret ns address) (loginSecret secret ns login password) login
      password := by
  obtain ⟨-, -, -, -, hns⟩ := textAt?_loginSecret secret ns login password
  obtain ⟨-, -, -, hagent⟩ := textAt?_agentDocument secret ns address
  obtain ⟨⟨hname, hkey⟩, hname', hkey'⟩ := textAt?_basicAuth secret address
  have hsecret := holdsLogin_loginSecret secret ns login password
  exact {
    document := agent_eq secret ns address
    kind := rfl
    ns := hagent.trans hns.symm
    authorized := ⟨_, at?_remoteWrite secret ns address, ⟨hname, _, hkey, hsecret.username⟩,
      ⟨hname', _, hkey', hsecret.password⟩⟩ }

end Agent

end Monitoring

end Provisioner
