import DatastoreAccess.Access.Error
import DatastoreAccess.Token.Policy
/-!
# Access.Decoder — the claims of a token that a policy accepts

First the token is read, with its signature checked or not; then the audience is looked at, then the required claims.
-/
namespace DatastoreAccess

/-- How far a token may be behind the clock. -/
structure Decoder where
  leeway : UInt64
  deriving DecidableEq, Repr

namespace Decoder

/-- The claims before any policy. -/
def claims (d : Decoder) (now : UInt64) (key : Option SigningKey) (verifySignature : Bool) (token : String) :
    Except Failure Claims :=
  if verifySignature then
    match key with
    | none => .error (.refused (.configuration .keyMissing))
    | some key => (Token.signed token key.material now d.leeway).mapError Failure.ofFault
  else (Token.plain token now d.leeway).mapError Failure.ofFault

/-- The claims of a token, if they satisfy a policy. -/
def decode (d : Decoder) (now : UInt64) (policy : Policy) (key : Option SigningKey) (audience : Option String)
    (verifySignature : Bool) (token : String) : Except Failure Claims := do
  let c ← d.claims now key verifySignature token
  if !policy.acceptsAudience audience c then throw (.refused .invalidToken)
  if !policy.satisfiedBy c then throw (.refused .invalidToken)
  return c

end Decoder
end DatastoreAccess
