import Provisioner.ClientError
import Provisioner.Duration
/-!
# Errors

Every failure of a run says what it belongs to: the operator and the phase of an install, the wait
that ran out of time, the resource that is missing.  A step that wraps a failure keeps the text of
its cause.
-/

namespace Provisioner

/-- Why an operation failed. -/
inductive Error where
  /-- A request to the API server failed. -/
  | kube (cause : ClientError)
  /-- A manifest holds something that is not a resource. -/
  | manifest (message : String)
  /-- A bounded wait ran out of time. -/
  | timeout (description : String) (limit : Duration)
  /-- An install or upgrade of an operator failed in a phase. -/
  | install (operator phase message : String)
  /-- Something that an earlier step guarantees is missing. -/
  | precondition (context message : String)
  /-- A needed resource does not exist. -/
  | notFound (resource : String)
  /-- Monitoring could not be provisioned or removed. -/
  | monitoring (message : String)
  /-- A request to the monitoring server failed. -/
  | http (message : String)
  /-- A value could not be encoded. -/
  | serialization (message : String)
  /-- The configuration is invalid. -/
  | config (message : String)
  /-- A file could not be read. -/
  | io (message : String)
  /-- An operation failed, with its context. -/
  | internal (context message : String)
deriving DecidableEq

namespace Error

/-- What went wrong, in words. -/
def message : Error → String
  | .kube cause => "kubernetes error: " ++ cause.message
  | .manifest text => "manifest error: " ++ text
  | .timeout description limit =>
    "timed out after " ++ limit.text ++ " waiting for " ++ description
  | .install operator phase text =>
    "install of " ++ operator ++ " failed in " ++ phase ++ ": " ++ text
  | .precondition context text => "precondition failed [" ++ context ++ "]: " ++ text
  | .notFound resource => "not found: " ++ resource
  | .monitoring text => "monitoring error: " ++ text
  | .http text => "http error: " ++ text
  | .serialization text => "serialization error: " ++ text
  | .config text => "config error: " ++ text
  | .io text => "io error: " ++ text
  | .internal context text => "internal error [" ++ context ++ "]: " ++ text

/-- Whether a bounded wait ran out of time. -/
def isTimeout : Error → Bool
  | .timeout .. => true
  | _ => false

/-- Whether a resource does not exist: one that this library looked for, or one that the API server
answers with code 404. -/
def isNotFound : Error → Bool
  | .notFound _ => true
  | .kube (.api r) => r.code == 404
  | _ => false

/-- Whether an error is already that of an install. -/
def isInstall : Error → Bool
  | .install .. => true
  | _ => false

end Error

end Provisioner
