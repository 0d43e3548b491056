import DatastoreAccess.Json.Printer
import DatastoreAccess.Number.Word
import DatastoreAccess.Text.Base64Url
/-!
# Token.Claims — what a token says

Claims are the fields of the payload in order.  A claim is present when it is there and not null.  The audience is a
single text or a list of which only the texts count.
-/
namespace DatastoreAccess

structure Claims where
  fields : List (String × Json)
  deriving Repr

namespace Claims

def empty : Claims := ⟨[]⟩

/-! ## Names -/

def subject : String := "sub"
def audience : String := "aud"
def expiration : String := "exp"
def notBefore : String := "nbf"
def issuer : String := "iss"
def userId : String := "user/uuid"
def firstName : String := "user/firstName"
def lastName : String := "user/lastName"
def role : String := "accreditation/role"

/-! ## Views -/

def get? (c : Claims) (name : String) : Option Json := c.fields.lookup name

def string? (c : Claims) (name : String) : Option String := (c.get? name).bind Json.string?

/-- Whether a claim is there and not null. -/
def contains (c : Claims) (name : String) : Bool := (c.get? name).any fun v => !v.isNull

/-- The texts of a value that names audiences. -/
def audiencesOf : Json → List String
  | .string s => [s]
  | .array vs => vs.filterMap Json.string?
  | _ => []

def audiences (c : Claims) : List String := ((c.get? audience).map audiencesOf).getD []

def lastInstant : Nat := Number.wordLimit - 1

/-- The whole seconds of a number, unless it is negative; beyond 64 bits the last instant. -/
def secondsOf : Json.Number → Option Nat
  | .integer n => if 0 ≤ n then some n.toNat else none
  | .float f =>
    match Number.Binary64.ofFloat? f with
    | some b => if b.negative ∧ ¬b.isZero then none else some (min b.truncated lastInstant)
    | none => none

/-- The expiry in seconds, if there is one and it is a number that is not negative. -/
def expiresAt (c : Claims) : Option Nat :=
  match c.get? expiration with
  | some (.number n) => secondsOf n
  | _ => none

/-! ## Reading -/

/-- The claims of a tree that is an object. -/
def ofTree? (t : Json.Tree) : Option Claims := t.members?.map fun ms => ⟨Json.ofMembers ms⟩

end Claims
end DatastoreAccess
