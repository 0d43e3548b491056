import DatastoreAccess.Keys.Endpoint
import DatastoreAccess.Token.Decode
/-!
# Access.Error — why access is not granted

Every refusal has a cause.  Causes fall into four kinds, and a caller learns the kind only: the status and the public
message hang on it alone.  In particular a token that fails any check is just an invalid token.  A call that breaks off
is no refusal and has no kind.
-/
namespace DatastoreAccess

namespace AccessError

/-- No credential, or a service key that is not the right one. -/
inductive Credential where
  | noToken
  | noUserInfo
  | noServiceKey
  | wrongServiceKey
  | note (text : String)
  deriving DecidableEq, Repr

/-- What a good token does not grant. -/
inductive Grant where
  | role (found : Option String)
  | noAudience
  | datastore (rdn : String)
  | provisioning (user : String)
  | note (text : String)
  deriving DecidableEq, Repr

inductive Setup where
  | keyMissing
  | settingMissing (name : String)
  | note (text : String)
  deriving DecidableEq, Repr

inductive Internal where
  | keyFamily
  | expiryFormat
  | note (text : String)
  deriving DecidableEq, Repr

end AccessError

inductive AccessError where
  | unauthenticated (cause : AccessError.Credential)
  | invalidToken
  | forbidden (cause : AccessError.Grant)
  | tokenMismatch
  | keyResolution (cause : KeyFailure)
  | configuration (cause : AccessError.Setup)
  | internal (cause : AccessError.Internal)
  deriving DecidableEq, Repr

/-- What of an error can be seen from outside. -/
inductive ErrorKind where
  | unauthenticated
  | invalidToken
  | forbidden
  | operational
  deriving DecidableEq, Repr

namespace AccessError

def Credential.message : Credential → String
  | .noToken => "Missing token"
  | .noUserInfo => "Missing user-info token"
  | .noServiceKey => "Missing API key"
  | .wrongServiceKey => "Invalid API key"
  | .note text => text

def Grant.message : Grant → String
  | .role found => "Unauthorized with role: " ++ found.getD "<none>"
  | .noAudience => "Missing audience"
  | .datastore rdn => "Not authorized to access datastore: " ++ rdn
  | .provisioning user => "User " ++ user ++ " is not allowed to provision datastores"
  | .note text => text

def Setup.message : Setup → String
  | .keyMissing => "Signing key required when signature verification is enabled"
  | .settingMissing name => "Missing required setting: " ++ name
  | .note text => text

def Internal.message : Internal → String
  | .keyFamily => "Token decoding failed: InvalidKeyFormat"
  | .expiryFormat => "Token decoding failed: Invalid format for claim: exp"
  | .note text => text

def message : AccessError → String
  | .unauthenticated cause => "Unauthenticated: " ++ cause.message
  | .invalidToken => "Unauthorized: Invalid token"
  | .forbidden cause => "Forbidden: " ++ cause.message
  | .tokenMismatch => "Forbidden: Token mismatch"
  | .keyResolution cause => "Signing key resolution failed: " ++ cause.message
  | .configuration cause => "Configuration error: " ++ cause.message
  | .internal cause => "Internal error: " ++ cause.message

def kind : AccessError → ErrorKind
  | .unauthenticated _ => .unauthenticated
  | .invalidToken => .invalidToken
  | .forbidden _ => .forbidden
  | .tokenMismatch => .forbidden
  | .keyResolution _ => .operational
  | .configuration _ => .operational
  | .internal _ => .operational

/-- The name of the cause in logs and counters. -/
def category : AccessError → String
  | .unauthenticated _ => "unauthenticated"
  | .invalidToken => "invalid_token"
  | .forbidden _ => "forbidden"
  | .tokenMismatch => "token_mismatch"
  | .keyResolution _ => "key_resolution"
  | .configuration _ => "configuration"
  | .internal _ => "internal"

end AccessError

/-- How a call ends without a value: it is refused for a cause, or it breaks off. -/
inductive Failure where
  | refused (cause : AccessError)
  | overflow
  deriving DecidableEq, Repr

/-- Faults that lie in the token make it invalid, the others are ours; and where a subtraction has no result, the call
breaks off. -/
def Failure.ofFault : Token.Fault → Failure
  | .malformed => .refused .invalidToken
  | .algorithm => .refused .invalidToken
  | .keyFamily => .refused (.internal .keyFamily)
  | .signature => .refused .invalidToken
  | .expired => .refused .invalidToken
  | .expiryFormat => .refused (.internal .expiryFormat)
  | .overflow => .overflow

namespace ErrorKind

def name : ErrorKind → String
  | .unauthenticated => "Unauthenticated"
  | .invalidToken => "InvalidToken"
  | .forbidden => "Forbidden"
  | .operational => "Operational"

/-- The status of the answer.  Missing rights are answered like missing credentials. -/
def status : ErrorKind → Nat
  | .operational => 500
  | _ => 401

/-- What the caller is told. -/
def publicMessage : ErrorKind → String
  | .unauthenticated => "Unauthorized. No valid credentials were provided"
  | .invalidToken => "Unauthorized: Invalid token"
  | .forbidden => "Unauthorized: Insufficient permissions"
  | .operational => "Internal Server Error"

end ErrorKind

namespace AccessError

def status (e : AccessError) : Nat := e.kind.status

def publicMessage (e : AccessError) : String := e.kind.publicMessage

/-- Whether the fault is not the caller's. -/
def isOperational (e : AccessError) : Bool := e.kind = .operational

end AccessError
end DatastoreAccess
