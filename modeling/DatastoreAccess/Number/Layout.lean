import DatastoreAccess.Number.Shortest
/-!
# Number.Layout — writing a double

The digits are the shortest that read back.  A layout says where they are written out in place and where with a power
of ten.
-/
namespace DatastoreAccess.Number

/-- Between which places of the first digit a number is written out in full. -/
structure Layout where
  leastPlace : Int
  greatestPlace : Int
  /-- Whether a whole number keeps `.0`. -/
  keepsPoint : Bool

def zeros (n : Nat) : List Char := List.replicate n '0'

/-- The digits written out in place. -/
def Decimal.inPlace (d : Decimal) (keepsPoint : Bool) : List Char :=
  let ds := Nat.toDigits 10 d.value
  match d.exponent with
  | .ofNat k => ds ++ zeros (if d.value = 0 then 0 else k) ++ (if keepsPoint then ['.', '0'] else [])
  | .negSucc k =>
    let after := k + 1
    if after < ds.length then ds.take (ds.length - after) ++ '.' :: ds.drop (ds.length - after)
    else '0' :: '.' :: zeros (after - ds.length) ++ ds

/-- One digit before the point, then the power of ten with its sign. -/
def Decimal.scientific (d : Decimal) (place : Int) : List Char :=
  let ds := Nat.toDigits 10 d.value
  let head := match ds with
    | [] => []
    | [c] => [c]
    | c :: r => c :: '.' :: r
  head ++ 'e' :: (if place < 0 then '-' else '+') :: Nat.toDigits 10 place.natAbs

def Layout.write (l : Layout) (b : Binary64) : List Char :=
  let d := b.shortest
  let place := d.exponent + digitCount d.value - 1
  let body :=
    if d.value = 0 ∨ (l.leastPlace ≤ place ∧ place ≤ l.greatestPlace) then d.inPlace l.keepsPoint
    else d.scientific place
  if b.negative then '-' :: body else body

end DatastoreAccess.Number
