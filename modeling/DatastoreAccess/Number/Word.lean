/-!
# Number.Word — numbers of 64 bits

Whole numbers beyond 64 bits are cut off, refused or read as doubles, by rules of each format; the limits are the same.
-/
namespace DatastoreAccess.Number

/-- The first number that 64 bits do not hold. -/
def wordLimit : Nat := Nat.pow 2 64

/-- The first number that 64 bits do not hold together with a sign. -/
def signedLimit : Nat := Nat.pow 2 63

/-- Whether 64 bits hold an integer with its sign. -/
def fitsSigned (n : Int) : Bool := -(signedLimit : Int) ≤ n && n < signedLimit

end DatastoreAccess.Number
