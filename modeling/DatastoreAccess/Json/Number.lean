import DatastoreAccess.Number.Layout
import DatastoreAccess.Number.Word
/-!
# Json.Number — numerals and what they stand for

A numeral without fraction and exponent that fits 64 bits is an integer.  Every other numeral is a double, found in two
rounded steps: the first digits that fit 64 bits become a double, and that is multiplied or divided by a power of ten.
Two steps may end one unit beside the nearest double; the steps themselves are what is fixed.
-/
namespace DatastoreAccess.Json

/-- A numeral as written: its digits as numbers. -/
structure Numeral where
  negative : Bool
  whole : List Nat
  fraction : List Nat
  /-- Sign and digits of the power of ten. -/
  power : Option (Bool × List Nat)
  deriving DecidableEq, Repr

inductive Number where
  | integer (n : Int)
  | float (f : Float)
  deriving DecidableEq, Repr

/-- The digits that fit 64 bits, read so far: their value and the power of ten they are short of. -/
structure Significand where
  value : Nat
  power : Int
  full : Bool

open DatastoreAccess.Number (wordLimit signedLimit)

/-- Whole digits beyond 64 bits each count a factor of ten. -/
def Significand.whole : Significand → List Nat → Significand
  | s, [] => s
  | s, d :: l =>
    if s.full ∨ wordLimit ≤ s.value * 10 + d then whole ⟨s.value, s.power + 1, true⟩ l
    else whole ⟨s.value * 10 + d, s.power, false⟩ l

/-- Digits of the fraction are taken while they fit, and all others dropped. -/
def Significand.fraction : Significand → List Nat → Significand
  | s, [] => s
  | s, d :: l =>
    if wordLimit ≤ s.value * 10 + d then s
    else fraction ⟨s.value * 10 + d, s.power - 1, s.full⟩ l

/-- The first power that 32 bits do not hold together with a sign. -/
def powerLimit : Nat := Nat.pow 2 31

/-- The power of ten as a 32-bit number, `none` when it is beyond. -/
def power? : Nat → List Nat → Option Nat
  | acc, [] => some acc
  | acc, d :: l => if powerLimit ≤ acc * 10 + d then none else power? (acc * 10 + d) l

def clampPower (p : Int) : Int := max (-powerLimit) (min (powerLimit - 1) p)

/-- The double `10^k`. -/
def tenTo (k : Nat) : Float := Float.ofScientific 1 false k

/-- `f · 10^p` in rounded steps of at most 308 places, none when it overflows. -/
def scaled? : (rounds : Nat) → Float → Int → Option Float
  | 0, f, _ => some f
  | rounds + 1, f, p =>
    if p.natAbs ≤ 308 then
      if 0 ≤ p then
        let r := f * tenTo p.natAbs
        if r.isInf then none else some r
      else some (f / tenTo p.natAbs)
    else if f == 0 then some f
    else if 0 ≤ p then none
    else scaled? rounds (f / tenTo 308) (p + 308)

def signed (negative : Bool) (f : Float) : Float := if negative then -f else f

def Numeral.float? (n : Numeral) (s : Significand) : Option Float :=
  let ofPower (p : Int) := (scaled? 4 (UInt64.ofNat s.value).toFloat p).map (signed n.negative)
  match n.power with
  | none => ofPower s.power
  | some (negative, ds) =>
    match power? 0 ds with
    | some k => ofPower (clampPower (if negative then s.power - k else s.power + k))
    | none => if s.value ≠ 0 ∧ ¬negative then none else some (signed n.negative 0)

/-- What a numeral stands for; `none` when it is too large for a double. -/
def Numeral.number? (n : Numeral) : Option Number :=
  let s := Significand.whole ⟨0, 0, false⟩ n.whole
  if n.fraction = [] ∧ n.power = none ∧ ¬s.full then
    if ¬n.negative then some (.integer s.value)
    else if 0 < s.value ∧ s.value ≤ signedLimit then some (.integer (-s.value))
    else some (.float (-(UInt64.ofNat s.value).toFloat))
  else (n.float? (s.fraction n.fraction)).map .float

/-- Doubles are written out between 10⁻⁵ and 10¹⁵ and keep their point. -/
def layout : DatastoreAccess.Number.Layout := ⟨-5, 15, true⟩

def Number.text : Number → List Char
  | .integer n => (toString n).toList
  | .float f =>
    match DatastoreAccess.Number.Binary64.ofFloat? f with
    | some b => layout.write b
    | none => "null".toList

end DatastoreAccess.Json
