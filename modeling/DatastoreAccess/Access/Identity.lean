import DatastoreAccess.Json.Printer
import DatastoreAccess.Json.Record
import DatastoreAccess.Keys.SigningKey
import DatastoreAccess.Token.Claims
/-!
# Access.Identity — who a caller is

An identity is an id and two names.  A grant is what a good token gives: the user, the claims, and the key that the
token was verified with, so that a second token of the same request can be held against the same key.
-/
namespace DatastoreAccess

structure Identity where
  userId : String
  firstName : String
  lastName : String
  deriving DecidableEq, Repr

namespace Identity

/-- The stand-in user when nothing is checked. -/
def development : Identity := ⟨"1234-1234-1234-1234", "Test", "User"⟩

def toJson (i : Identity) : Json :=
  .object [("user_id", .string i.userId), ("first_name", .string i.firstName), ("last_name", .string i.lastName)]

/-- The identity written as an object, or as a list of its three texts. -/
def ofString? (s : String) : Option Identity := do
  let t ← Json.Tree.ofBytes? (Text.encodeString s)
  match ← t.slots? ["user_id", "first_name", "last_name"] with
  | [some a, some b, some c] => some ⟨← a.string?, ← b.string?, ← c.string?⟩
  | _ => none

end Identity

structure Grant where
  userId : String
  claims : Claims
  key : Option SigningKey
  deriving Repr

/-- The grant of the stand-in user. -/
def Grant.development : Grant := ⟨Identity.development.userId, Claims.empty, none⟩

end DatastoreAccess
