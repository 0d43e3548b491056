import DatastoreAccess.Access.Error
import DatastoreAccess.Digest.Blake3
/-!
# Access.ServiceKey — the shared key of services

Only the digest of the key is kept.  A candidate is right when its digest is the same.
-/
namespace DatastoreAccess

structure ServiceKey where
  digest : List UInt8
  deriving DecidableEq, Repr

namespace ServiceKey

def ofString (key : String) : ServiceKey := ⟨Digest.Blake3.hash (Text.encodeString key)⟩

def check (k : ServiceKey) : Option String → Except AccessError Unit
  | none => .error (.unauthenticated .noServiceKey)
  | some candidate => if ofString candidate = k then .ok () else .error (.unauthenticated .wrongServiceKey)

/-- How a service key shows itself: not at all. -/
def shown (_ : ServiceKey) : String := "ApiKeyValidator \x7b .. \x7d"

end ServiceKey
end DatastoreAccess
