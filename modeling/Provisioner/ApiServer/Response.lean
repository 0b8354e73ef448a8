import Provisioner.ClientError
import Provisioner.Http
import Provisioner.Json.Reader
import Provisioner.Kube.ObjectMeta
/-!
# Answers of the API server

An answer with a status of a fault is an error; any other is read as the type that is asked for.
-/

namespace Provisioner.ApiServer

open Json (Decoder Fields)
open Http (Response)

/-- A natural number of 16 bits. -/
def decodeCode : Decoder Nat := fun value => do
  return (← Decoder.intBetween 0 0xFFFF value).toNat

/-- Read an error of the server. -/
def decodeError : Decoder ErrorResponse := fun value => do
  let fields ← Fields.closed ["status", "message", "reason", "code"] value
  return {
    status := ← fields.required "status" Decoder.string
    message := ← fields.defaulted "message" Decoder.string ""
    reason := ← fields.defaulted "reason" Decoder.string ""
    code := ← fields.required "code" decodeCode }

/-- The error that stands for an answer that holds none. -/
def unreadableError (response : Response) : ErrorResponse where
  status := Http.statusText response.status
  message := Text.quote response.body
  reason := "Failed to parse error data"
  code := response.status

/-- The error in an answer with a status of a fault. -/
def errorOf (response : Response) : ErrorResponse :=
  match Json.read response.body.toList with
  | .error _ => unreadableError response
  | .ok value =>
    match decodeError value with
    | .ok error => error
    | .error _ => unreadableError response

/-- The text of an answer. -/
def textOf (response : Response) : Except ClientError String :=
  if Http.isFault response.status then .error (.api (errorOf response)) else .ok response.body

/-- The JSON of a text. -/
def jsonOf (text : String) : Except ClientError Json :=
  (Json.read text.toList).mapError fun e => .deserialize e.message

/-- A value read from JSON. -/
def valueOf {α : Type} (d : Decoder α) (value : Json) : Except ClientError α :=
  (d value).mapError fun e => .deserialize e.message

/-- What an answer holds. -/
def bodyOf {α : Type} (d : Decoder α) (response : Response) : Except ClientError α := do
  valueOf d (← jsonOf (← textOf response))

/-- What an answer holds, or nothing for the error of an absent object. -/
def absentOr {α : Type} (result : Except ClientError α) : Except ClientError (Option α) :=
  match result with
  | .ok value => .ok (some value)
  | .error (.api r) =>
    if r.reason = ErrorResponse.notFoundReason then .ok none else .error (.api r)
  | .error e => .error e

/-- Check the metadata of a list. -/
def checkListMeta : Decoder Unit := fun value => do
  let fields ← Fields.opened value
  let _ ← fields.optional "continue" Decoder.string
  let _ ← fields.optional "remainingItemCount" Decoder.int64
  let _ ← fields.optional "resourceVersion" Decoder.string
  let _ ← fields.optional "selfLink" Decoder.string

/-- Read the items of a list; null stands for none. -/
def decodeList {α : Type} (d : Decoder α) : Decoder (List α) := fun value => do
  match value with
  | .object _ =>
    let fields ← Fields.closed ["metadata", "items"] value
    let _ ← fields.last? "metadata" checkListMeta
    return (← fields.required "items" (Decoder.nullable (Decoder.list d))).getD []
  | _ => .error (.expected "an object")

/-- Check an object of which only the metadata is known. -/
def checkObject : Decoder Unit := fun value => do
  match value with
  | .object _ =>
    let fields ← Fields.closed ["metadata"] value
    let _ ← fields.last? "metadata" ObjectMeta.decode
  | _ => .error (.expected "an object")

/-- Check the outcome that a status names. -/
def checkOutcome : Decoder Unit
  | .string s => if s = "Success" ∨ s = "Failure" then .ok () else .error (.unknown s)
  | _ => .error (.expected "a string")

/-- Check a cause of a status. -/
def checkCause : Decoder Unit := fun value => do
  let fields ← Fields.closed ["reason", "message", "field"] value
  let _ ← fields.defaulted "reason" Decoder.string ""
  let _ ← fields.defaulted "message" Decoder.string ""
  let _ ← fields.defaulted "field" Decoder.string ""

/-- Check the details of a status. -/
def checkDetails : Decoder Unit := fun value => do
  let names := ["name", "group", "kind", "uid", "causes", "retryAfterSeconds"]
  let fields ← Fields.closed names value
  let _ ← fields.defaulted "name" Decoder.string ""
  let _ ← fields.defaulted "group" Decoder.string ""
  let _ ← fields.defaulted "kind" Decoder.string ""
  let _ ← fields.defaulted "uid" Decoder.string ""
  let _ ← fields.defaulted "causes" (Decoder.list checkCause) []
  let _ ← fields.defaulted "retryAfterSeconds" (Decoder.intBetween 0 0xFFFFFFFF) 0

/-- Check a status. -/
def checkStatus : Decoder Unit := fun value => do
  let fields ← Fields.closed ["status", "code", "message", "reason", "details"] value
  let _ ← fields.optional "status" checkOutcome
  let _ ← fields.defaulted "code" decodeCode 0
  let _ ← fields.defaulted "message" Decoder.string ""
  let _ ← fields.defaulted "reason" Decoder.string ""
  let _ ← fields.optional "details" checkDetails

/-- Check the answer to a deletion: a status, or the object that goes away. -/
def checkDeleted : Decoder Unit := fun value =>
  if value.canonical.get? "kind" = some (.string "Status") then checkStatus value
  else checkObject value

end Provisioner.ApiServer
