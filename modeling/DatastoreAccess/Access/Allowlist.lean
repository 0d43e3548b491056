import DatastoreAccess.Access.Error
import DatastoreAccess.Text.Names
/-!
# Access.Allowlist — who may provision datastores

A good token says who the caller is, not that they may create datastores; for that they have to be on this list.
-/
namespace DatastoreAccess

structure Allowlist where
  users : List String
  deriving DecidableEq, Repr

namespace Allowlist

def ofList (users : List String) : Allowlist := ⟨Text.names users⟩

def contains (a : Allowlist) (user : String) : Bool := a.users.contains user

def size (a : Allowlist) : Nat := a.users.length

def isEmpty (a : Allowlist) : Bool := a.users.isEmpty

def check (a : Allowlist) (user : String) : Except AccessError Unit :=
  if a.contains user then .ok () else .error (.forbidden (.provisioning user))

@[simp] theorem contains_ofList {users : List String} {user : String} :
    (ofList users).contains user = true ↔ user ∈ users := by
  simp [ofList, contains]

end Allowlist
end DatastoreAccess
