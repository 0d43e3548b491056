import DatastoreAccess.Text.Names
import DatastoreAccess.Token.Claims
/-!
# Token.Policy — what a kind of token must hold

A policy names the claim of the user, the claims that must be present, and whether the audience counts.  Where a policy
requires claims at all it requires the claim of the user, too.
-/
namespace DatastoreAccess

structure Policy where
  subject : String
  required : Option (List String)
  verifiesAudience : Bool
  deriving DecidableEq, Repr

namespace Policy

def make (subject : String) (required : Option (List String)) (verifiesAudience : Bool) : Policy :=
  ⟨subject, required.map fun names => Text.insertName subject (Text.names names), verifiesAudience⟩

/-- A plain user token. -/
def user : Policy := make Claims.subject (some [Claims.subject]) true

/-- A token that carries a role and the datastores it is good for. -/
def accreditation : Policy := make Claims.userId (some [Claims.audience, Claims.subject, Claims.role]) true

/-- A token that carries the user's names. -/
def userInfo : Policy := make Claims.userId (some [Claims.firstName, Claims.lastName]) false

/-- Whether every required claim is present. -/
def satisfiedBy (p : Policy) (c : Claims) : Bool := (p.required.getD []).all c.contains

/-- Whether the audience is accepted.  Where none is expected, a token that names one is meant for someone else. -/
def acceptsAudience (p : Policy) (expected : Option String) (c : Claims) : Bool :=
  if p.verifiesAudience then
    match expected with
    | some a => c.audiences.contains a
    | none => !c.contains Claims.audience
  else true

end Policy
end DatastoreAccess
