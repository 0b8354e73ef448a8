import Provisioner.Kube.Secret
import Provisioner.Manifest.Resource
/-!
# Objects of the monitoring stack

The secret with the credentials for the monitoring server, and the agent that writes what it
scrapes to that server with those credentials.
-/

namespace Provisioner.Monitoring

/-- What follows the common start of the names of secrets. -/
def secretNameStart : String := "vm-operator-"

/-- The name of the secret with a random number. -/
def secretName (suffix : UInt64) : String := secretNameStart ++ toString suffix.toNat

/-- Name of the login in a secret. -/
def usernameKey : String := "username"

/-- Name of the password in a secret. -/
def passwordKey : String := "password"

/-- The secret with a login and a password. -/
def credentials (name ns login password : String) : Secret where
  metadata := { name := some name, ns := some ns }
  type := some "Opaque"
  data := some
    [(passwordKey, Text.Utf8.bytes password), (usernameKey, Text.Utf8.bytes login)]

/-- The resource of a secret. -/
def secretResource (s : Secret) : Except ResourceError Resource := Resource.ofJson s.encode

/-- A reference to a part of a secret. -/
def secretPart (secret key : String) : Json :=
  Json.ofMembers (Json.member "name" (.string secret) ++ Json.member "key" (.string key))

/-- Amounts of processor time and memory. -/
def amounts (cpu memory : String) : Json :=
  Json.ofMembers (Json.member "cpu" (.string cpu) ++ Json.member "memory" (.string memory))

/-- API version of the agent. -/
def agentApiVersion : String := "operator.victoriametrics.com/v1beta1"

/-- Where an agent writes to: the server at an address, with the credentials in a secret. -/
def remoteWrite (secret address : String) : Json :=
  Json.ofMembers (
    Json.member "url" (.string (address ++ "/victoriametrics/api/v1/write")) ++
    Json.member "tlsConfig" (Json.ofMembers (Json.member "insecureSkipVerify" (.bool true))) ++
    Json.member "basicAuth" (Json.ofMembers (
      Json.member "username" (secretPart secret usernameKey) ++
      Json.member "password" (secretPart secret passwordKey))))

/-- What an agent does: it scrapes everything that is declared and writes to one server. -/
def agentSpec (secret address : String) : Json :=
  Json.ofMembers (
    Json.member "serviceScrapeNamespaceSelector" (.object []) ++
    Json.member "serviceScrapeSelector" (.object []) ++
    Json.member "podScrapeNamespaceSelector" (.object []) ++
    Json.member "podScrapeSelector" (.object []) ++
    Json.member "probeSelector" (.object []) ++
    Json.member "probeNamespaceSelector" (.object []) ++
    Json.member "staticScrapeSelector" (.object []) ++
    Json.member "staticScrapeNamespaceSelector" (.object []) ++
    Json.member "replicaCount" (.int 1) ++
    Json.member "selectAllByDefault" (.bool true) ++
    Json.member "resources" (Json.ofMembers (
      Json.member "requests" (amounts "250m" "350Mi") ++
      Json.member "limits" (amounts "500m" "850Mi"))) ++
    Json.member "extraArgs"
      (Json.ofMembers (Json.member "memory.allowedPercent" (.string "40"))) ++
    Json.member "remoteWrite" (.array [remoteWrite secret address]))

/-- The document of the agent that writes to the server at an address. -/
def agentDocument (secret ns address : String) : Json :=
  Json.ofMembers (
    Json.member "apiVersion" (.string agentApiVersion) ++
    Json.member "kind" (.string "VMAgent") ++
    Json.member "metadata" (Json.ofMembers (
      Json.member "name" (.string ("pmm-vmagent-" ++ secret)) ++
      Json.member "namespace" (.string ns))) ++
    Json.member "spec" (agentSpec secret address))

/-- The agent that writes to the server at an address. -/
def agent (secret ns address : String) : Except ResourceError Resource :=
  Resource.ofJson (agentDocument secret ns address)

end Provisioner.Monitoring
