import Provisioner.Text.Quoted
/-!
# Failures of the cluster client

What can go wrong between the client and the API server: the server answers with an error of its
own, cannot be reached, answers something that cannot be read, or the request cannot be formed.
-/

namespace Provisioner

/-- The error that an API server answers. -/
structure ErrorResponse where
  /-- Outcome, `Failure` for an error of the server itself. -/
  status : String
  /-- Explanation for a reader. -/
  message : String
  /-- Cause in one word, such as `NotFound`. -/
  reason : String
  /-- Status code of the answer. -/
  code : Nat
deriving DecidableEq

/-- A failed request to the API server. -/
inductive ClientError where
  /-- The server answered with an error. -/
  | api (response : ErrorResponse)
  /-- The server could not be reached. -/
  | service (detail : String)
  /-- The answer is not of the expected form. -/
  | deserialize (detail : String)
  /-- The request could not be formed. -/
  | buildRequest (detail : String)
  /-- The address of the request is not an address. -/
  | address (detail : String)
  /-- The kind of a resource could not be looked up. -/
  | discovery (detail : String)
deriving DecidableEq

namespace ErrorResponse

/-- All four parts of an error response. -/
def describe (r : ErrorResponse) : String :=
  "ErrorResponse \x7b status: " ++ Text.quote r.status ++ ", message: " ++ Text.quote r.message ++
    ", reason: " ++ Text.quote r.reason ++ ", code: " ++ toString r.code ++ " \x7d"

/-- The cause that stands for an absent object. -/
def notFoundReason : String := "NotFound"

end ErrorResponse

namespace ClientError

/-- What went wrong, in words. -/
def message : ClientError → String
  | .api r => "ApiError: " ++ r.message ++ ": " ++ r.reason ++ " (" ++ r.describe ++ ")"
  | .service detail => "ServiceError: " ++ detail
  | .deserialize detail => "Error deserializing response: " ++ detail
  | .buildRequest detail => "Failed to build request: " ++ detail
  | .address detail => "HttpError: " ++ detail
  | .discovery detail => "Error from discovery: " ++ detail

end ClientError

end Provisioner
