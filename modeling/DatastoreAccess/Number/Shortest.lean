import DatastoreAccess.Number.Binary64
/-!
# Number.Shortest — the fewest decimal digits that read back

The reals that round to a double form an interval, with its ends included when the mantissa is even.  Of the decimal
grids of 1, 2, … 17 digits the first that has a point in the interval is taken, and on it the point nearest to the
double.  Only the two neighbours of the double on a grid have to be looked at.
-/
namespace DatastoreAccess.Number

/-- A decimal `value · 10^exponent`. -/
structure Decimal where
  value : Nat
  exponent : Int
  deriving DecidableEq, Repr

/-- How many digits a number has in base ten. -/
def digitCount (n : Nat) : Nat := (Nat.toDigits 10 n).length

namespace Shortest

/-- The place of the first digit: the `p` with `10^p ≤ num / den < 10^(p+1)`. -/
def leadingPlace (num den : Nat) : Int :=
  if den ≤ num then (digitCount (num / den) : Int) - 1 else -(digitCount ((den + num - 1) / num - 1) : Int)

/-- The double's interval over one denominator: the value and its two ends. -/
structure Interval where
  low : Nat
  value : Nat
  high : Nat
  den : Nat
  closed : Bool

def interval (b : Binary64) : Interval :=
  let m := b.mantissa
  let narrow := m = Nat.pow 2 52 ∧ b.exponent ≠ Binary64.leastExponent
  let low := if narrow then 4 * m - 1 else 4 * m - 2
  let closed := m % 2 = 0
  match b.exponent - 2 with
  | .ofNat k => ⟨low * Nat.pow 2 k, 4 * m * Nat.pow 2 k, (4 * m + 2) * Nat.pow 2 k, 1, closed⟩
  | .negSucc k => ⟨low, 4 * m, 4 * m + 2, Nat.pow 2 (k + 1), closed⟩

/-- The interval in units of `10^k`. -/
def Interval.scale (i : Interval) : Int → Interval
  | .ofNat k => { i with den := i.den * Nat.pow 10 k }
  | .negSucc k =>
    let t := Nat.pow 10 (k + 1)
    { i with low := i.low * t, value := i.value * t, high := i.high * t }

/-- Whether the whole number `c` lies in the interval. -/
def Interval.holds (i : Interval) (c : Nat) : Bool :=
  if i.closed then i.low ≤ c * i.den && c * i.den ≤ i.high else i.low < c * i.den && c * i.den < i.high

/-- The better of the two whole neighbours of the value, if one lies in the interval. -/
def Interval.pick? (i : Interval) : Option Nat :=
  let c := i.value / i.den
  let twice := 2 * (i.value - c * i.den)
  match i.holds c, i.holds (c + 1) with
  | true, true => some (if twice < i.den ∨ (twice = i.den ∧ c % 2 = 0) then c else c + 1)
  | true, false => some c
  | false, true => some (c + 1)
  | false, false => none

/-- The first grid of at least `n` digits with a hit, over `rounds` grids. -/
def search (i : Interval) (place : Int) : (rounds n : Nat) → Option Decimal
  | 0, _ => none
  | rounds + 1, n =>
    let k := place - n + 1
    match (i.scale k).pick? with
    | some c => some ⟨c, k⟩
    | none => search i place rounds (n + 1)

/-- Moves zeros at the end of the value into the exponent. -/
def strip : (rounds : Nat) → Decimal → Decimal
  | 0, d => d
  | rounds + 1, d => if d.value ≠ 0 ∧ d.value % 10 = 0 then strip rounds ⟨d.value / 10, d.exponent + 1⟩ else d

end Shortest

/-- The shortest decimal of a double's magnitude. -/
def Binary64.shortest (b : Binary64) : Decimal :=
  if b.mantissa = 0 then ⟨0, 0⟩
  else
    let i := Shortest.interval b
    match Shortest.search i (Shortest.leadingPlace i.value i.den) 17 1 with
    | some d => Shortest.strip 20 d
    | none => ⟨0, 0⟩

end DatastoreAccess.Number
