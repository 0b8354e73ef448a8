import Provisioner.Json.Basic
/-!
# HTTP messages

What is sent to a server and what comes back, without the connection in between.
-/

namespace Provisioner.Http

/-- What a request asks for. -/
inductive Method where
  | get
  | post
  | patch
  | delete
deriving DecidableEq

/-- The name of a method. -/
def Method.text : Method → String
  | get => "GET"
  | post => "POST"
  | patch => "PATCH"
  | delete => "DELETE"

/-- A request. -/
structure Request where
  method : Method
  /-- Path on the server, or the whole address of another one. -/
  target : String
  /-- Parameters after the path, as they are meant. -/
  query : List (String × String) := []
  contentType : Option String := none
  authorization : Option String := none
  body : Option Json := none
deriving DecidableEq

/-- An answer. -/
structure Response where
  /-- Status code. -/
  status : Nat
  /-- Text of the answer. -/
  body : String
deriving DecidableEq

/-- A request has no answer: the server cannot be reached, or ends the connection. -/
structure Unreachable where
  /-- What happened. -/
  detail : String
deriving DecidableEq

/-- The phrase that goes with a status code. -/
def phrase? (status : Nat) : Option String :=
  match status with
  | 100 => some "Continue"
  | 101 => some "Switching Protocols"
  | 102 => some "Processing"
  | 103 => some "Early Hints"
  | 200 => some "OK"
  | 201 => some "Created"
  | 202 => some "Accepted"
  | 203 => some "Non Authoritative Information"
  | 204 => some "No Content"
  | 205 => some "Reset Content"
  | 206 => some "Partial Content"
  | 207 => some "Multi-Status"
  | 208 => some "Already Reported"
  | 226 => some "IM Used"
  | 300 => some "Multiple Choices"
  | 301 => some "Moved Permanently"
  | 302 => some "Found"
  | 303 => some "See Other"
  | 304 => some "Not Modified"
  | 305 => some "Use Proxy"
  | 307 => some "Temporary Redirect"
  | 308 => some "Permanent Redirect"
  | 400 => some "Bad Request"
  | 401 => some "Unauthorized"
  | 402 => some "Payment Required"
  | 403 => some "Forbidden"
  | 404 => some "Not Found"
  | 405 => some "Method Not Allowed"
  | 406 => some "Not Acceptable"
  | 407 => some "Proxy Authentication Required"
  | 408 => some "Request Timeout"
  | 409 => some "Conflict"
  | 410 => some "Gone"
  | 411 => some "Length Required"
  | 412 => some "Precondition Failed"
  | 413 => some "Payload Too Large"
  | 414 => some "URI Too Long"
  | 415 => some "Unsupported Media Type"
  | 416 => some "Range Not Satisfiable"
  | 417 => some "Expectation Failed"
  | 418 => some "I'm a teapot"
  | 421 => some "Misdirected Request"
  | 422 => some "Unprocessable Entity"
  | 423 => some "Locked"
  | 424 => some "Failed Dependency"
  | 425 => some "Too Early"
  | 426 => some "Upgrade Required"
  | 428 => some "Precondition Required"
  | 429 => some "Too Many Requests"
  | 431 => some "Request Header Fields Too Large"
  | 451 => some "Unavailable For Legal Reasons"
  | 500 => some "Internal Server Error"
  | 501 => some "Not Implemented"
  | 502 => some "Bad Gateway"
  | 503 => some "Service Unavailable"
  | 504 => some "Gateway Timeout"
  | 505 => some "HTTP Version Not Supported"
  | 506 => some "Variant Also Negotiates"
  | 507 => some "Insufficient Storage"
  | 508 => some "Loop Detected"
  | 510 => some "Not Extended"
  | 511 => some "Network Authentication Required"
  | _ => none

/-- A status code with its phrase. -/
def statusText (status : Nat) : String :=
  toString status ++ " " ++ (phrase? status).getD "<unknown status code>"

/-- Whether a status code is one of success. -/
def isSuccess (status : Nat) : Bool := 200 ≤ status && status < 300

/-- Whether a status code is one of a fault of the client or the server. -/
def isFault (status : Nat) : Bool := 400 ≤ status && status < 600

end Provisioner.Http
