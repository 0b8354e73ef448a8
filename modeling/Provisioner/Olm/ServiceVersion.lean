import Provisioner.Olm.Subscription
/-!
# Cluster service versions

A cluster service version is one version of an operator on the cluster.  Its phase says how far
its install is.
-/

namespace Provisioner

open Json (Decoder Fields member member?)

/-- What a service version is. -/
structure ServiceVersionSpec where
  /-- Name for a reader. -/
  displayName : Option String := none
  /-- Version number. -/
  version : Option String := none
  /-- Name of the service version that this one replaces. -/
  replaces : Option String := none
deriving DecidableEq

/-- What became of a service version. -/
structure ServiceVersionStatus where
  /-- Phase in one word. -/
  phase : Option String := none
  /-- Cause of the phase in one word. -/
  reason : Option String := none
  /-- Explanation for a reader. -/
  message : Option String := none
deriving DecidableEq

/-- A cluster service version. -/
structure ServiceVersion where
  metadata : ObjectMeta
  spec : ServiceVersionSpec
  status : Option ServiceVersionStatus := none
deriving DecidableEq

namespace ServiceVersionSpec

/-- Read what a service version is. -/
def decode : Decoder ServiceVersionSpec := fun value => do
  let fields ← Fields.closed ["displayName", "version", "replaces"] value
  return {
    displayName := ← fields.optional "displayName" Decoder.string
    version := ← fields.optional "version" Decoder.string
    replaces := ← fields.optional "replaces" Decoder.string }

/-- Write what a service version is. -/
def encode (s : ServiceVersionSpec) : Json :=
  Json.ofMembers (member? "displayName" .string s.displayName ++
    member? "version" .string s.version ++ member? "replaces" .string s.replaces)

end ServiceVersionSpec

namespace ServiceVersionStatus

/-- Read what became of a service version. -/
def decode : Decoder ServiceVersionStatus := fun value => do
  let fields ← Fields.closed ["phase", "reason", "message"] value
  return {
    phase := ← fields.optional "phase" Decoder.string
    reason := ← fields.optional "reason" Decoder.string
    message := ← fields.optional "message" Decoder.string }

/-- Write what became of a service version. -/
def encode (s : ServiceVersionStatus) : Json :=
  Json.ofMembers (member? "phase" .string s.phase ++ member? "reason" .string s.reason ++
    member? "message" .string s.message)

end ServiceVersionStatus

namespace ServiceVersion

/-- Service versions of the operator lifecycle manager. -/
def kind : ResourceKind := {
  group := olmGroup, version := "v1alpha1", kind := "ClusterServiceVersion",
  plural := "clusterserviceversions", shortNames := ["csv"] }

/-- Read a service version. -/
def decode : Decoder ServiceVersion :=
  decodeObject ServiceVersionSpec.decode ServiceVersionStatus.decode ServiceVersion.mk

/-- Write a service version. -/
def encode (v : ServiceVersion) : Json :=
  encodeObject kind ServiceVersionSpec.encode ServiceVersionStatus.encode v.metadata v.spec v.status

/-- The phase; empty when none is reported. -/
def phase (v : ServiceVersion) : String := (v.status.bind (·.phase)).getD ""

/-- Whether the install is complete. -/
def isSucceeded (v : ServiceVersion) : Bool := v.phase == "Succeeded"

/-- Whether the install has failed. -/
def isFailed (v : ServiceVersion) : Bool := v.phase == "Failed"

/-- Cause and explanation of the phase. -/
def failureDetail (v : ServiceVersion) : String :=
  (v.status.bind (·.reason)).getD "Unknown" ++ ": " ++ (v.status.bind (·.message)).getD ""

end ServiceVersion

end Provisioner
