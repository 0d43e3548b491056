import DatastoreAccess.Access.Decoder
import DatastoreAccess.Access.Identity
/-!
# Access.Checks — what claims entitle to

Each check looks at one matter: the role, the audience against a datastore's name, the user, and the second token of a
request.
-/
namespace DatastoreAccess.Checks

/-- The role must be the wanted one, to the letter. -/
def role (c : Claims) (wanted : String) : Except AccessError Unit :=
  let found := c.string? Claims.role
  if found = some wanted then .ok () else .error (.forbidden (.role found))

/-- The audiences that can cover a datastore. -/
def scopes (c : Claims) : List String := c.audiences.filter fun a => a ≠ ""

/-- Whether an audience covers a datastore: the datastore's name starts with it. -/
def covers (audience rdn : String) : Bool := (Text.after? audience.toList rdn.toList).isSome

/-- Some audience must cover the datastore. -/
def coversDatastore (c : Claims) (rdn : String) : Except AccessError Unit :=
  if (scopes c).isEmpty then .error (.forbidden .noAudience)
  else if (scopes c).any fun a => covers a rdn then .ok ()
  else .error (.forbidden (.datastore rdn))

/-- The claim that names the user must be a text that is not empty. -/
def subject (c : Claims) (name : String) : Except AccessError String :=
  match c.string? name with
  | some s => if s = "" then .error .invalidToken else .ok s
  | none => .error .invalidToken

/-- The text of a claim: the text itself, or the written form of any other value. -/
def claimText (c : Claims) (name : String) : String :=
  match c.get? name with
  | some (.string s) => s
  | some v => v.compact
  | none => ""

/-- The identity in a user-info token, which must name the same user as the claims of the primary token. -/
def correlate (d : Decoder) (now : UInt64) (primary : Claims) (key : Option SigningKey) (verifySignature : Bool)
    (userInfo : String) : Except Failure Identity := do
  let c ← d.decode now Policy.userInfo key none verifySignature userInfo
  let user := c.string? Claims.userId
  if user.isNone || primary.string? Claims.userId ≠ user then throw (.refused .tokenMismatch)
  return ⟨claimText c Claims.userId, claimText c Claims.firstName, claimText c Claims.lastName⟩

end DatastoreAccess.Checks
