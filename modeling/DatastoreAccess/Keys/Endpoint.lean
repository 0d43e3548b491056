import DatastoreAccess.Keys.Jwk
/-!
# Keys.Endpoint — one request for the key set

A request ends without an answer, or with a status and a body.  Only a 2xx status with a key set that has a usable key
gives keys; every other ending is a failure with its cause.
-/
namespace DatastoreAccess

inductive KeyEndpoint.Response where
  | unanswered
  | answered (status : Nat) (body : List UInt8)
  deriving DecidableEq, Repr

/-- Why no key could be had. -/
inductive KeyFailure where
  | fetchFailed
  | refused (status : Nat)
  | notKeySet
  | noUsableKeys
  | unknownKey (id : String)
  | note (text : String)
  deriving DecidableEq, Repr

namespace KeyEndpoint

/-- Reason phrases of the registered status codes. -/
def reason? : Nat → Option String
  | 100 => "Continue" | 101 => "Switching Protocols" | 102 => "Processing" | 103 => "Early Hints"
  | 200 => "OK" | 201 => "Created" | 202 => "Accepted" | 203 => "Non Authoritative Information"
  | 204 => "No Content" | 205 => "Reset Content" | 206 => "Partial Content" | 207 => "Multi-Status"
  | 208 => "Already Reported" | 226 => "IM Used"
  | 300 => "Multiple Choices" | 301 => "Moved Permanently" | 302 => "Found" | 303 => "See Other"
  | 304 => "Not Modified" | 305 => "Use Proxy" | 307 => "Temporary Redirect" | 308 => "Permanent Redirect"
  | 400 => "Bad Request" | 401 => "Unauthorized" | 402 => "Payment Required" | 403 => "Forbidden"
  | 404 => "Not Found" | 405 => "Method Not Allowed" | 406 => "Not Acceptable"
  | 407 => "Proxy Authentication Required" | 408 => "Request Timeout" | 409 => "Conflict" | 410 => "Gone"
  | 411 => "Length Required" | 412 => "Precondition Failed" | 413 => "Payload Too Large"
  | 414 => "URI Too Long" | 415 => "Unsupported Media Type" | 416 => "Range Not Satisfiable"
  | 417 => "Expectation Failed" | 418 => "I'm a teapot" | 421 => "Misdirected Request"
  | 422 => "Unprocessable Entity" | 423 => "Locked" | 424 => "Failed Dependency" | 425 => "Too Early"
  | 426 => "Upgrade Required" | 428 => "Precondition Required" | 429 => "Too Many Requests"
  | 431 => "Request Header Fields Too Large" | 451 => "Unavailable For Legal Reasons"
  | 500 => "Internal Server Error" | 501 => "Not Implemented" | 502 => "Bad Gateway"
  | 503 => "Service Unavailable" | 504 => "Gateway Timeout" | 505 => "HTTP Version Not Supported"
  | 506 => "Variant Also Negotiates" | 507 => "Insufficient Storage" | 508 => "Loop Detected"
  | 510 => "Not Extended" | 511 => "Network Authentication Required"
  | _ => none

/-- A status with its reason phrase. -/
def statusText (status : Nat) : String :=
  toString status ++ " " ++ (reason? status).getD "<unknown status code>"

/-- The usable keys that a response publishes. -/
def Response.keys : Response → Except KeyFailure (List SigningKey)
  | .unanswered => .error .fetchFailed
  | .answered status body =>
    if 200 ≤ status ∧ status < 300 then
      match KeySet.ofBody? body with
      | none => .error .notKeySet
      | some s => if s.usable.isEmpty then .error .noUsableKeys else .ok s.usable
    else .error (.refused status)

end KeyEndpoint

def KeyFailure.message : KeyFailure → String
  | .fetchFailed => "JWKS fetch failed"
  | .refused status => "JWKS endpoint returned status " ++ KeyEndpoint.statusText status
  | .notKeySet => "Invalid JWKS format"
  | .noUsableKeys => "No valid keys found in JWKS"
  | .unknownKey id => "Key ID '" ++ id ++ "' not found in JWKS"
  | .note text => text

end DatastoreAccess
