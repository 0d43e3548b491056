/-!
# Number.Decimal — doubles from decimal digits

The double nearest to a decimal.  Exponents far outside the range of doubles are cut off first, so that no huge power of
ten is formed.
-/
namespace DatastoreAccess.Number

def digitsValue (ds : List Char) : Nat := ds.foldl (fun n c => n * 10 + (c.toNat - 48)) 0

/-- The double nearest to `± whole.fraction · 10^power`. -/
def nearestDouble (negative : Bool) (whole fraction : List Char) (power : Int) : Float :=
  let value := digitsValue (whole ++ fraction)
  let places : Int := ((whole ++ fraction).dropWhile (· = '0')).length
  let power := power - fraction.length
  let magnitude : Float :=
    if value = 0 ∨ places + power < -330 then 0.0
    else if 330 < places + power then 1.0 / 0.0
    else if 0 ≤ power then Float.ofScientific value false power.toNat
    else Float.ofScientific value true (-power).toNat
  if negative then -magnitude else magnitude

end DatastoreAccess.Number
