/-!
# Number.Binary64 — what a double holds

A finite double is `± mantissa · 2^exponent`.  Whole parts are taken on that form, in exact arithmetic on natural
numbers, so that they can be reasoned about without any fact on floating-point operations.
-/
namespace DatastoreAccess.Number

/-- A finite double as sign, mantissa and exponent of two. -/
structure Binary64 where
  negative : Bool
  mantissa : Nat
  exponent : Int
  deriving DecidableEq, Repr

/-- The smallest exponent, where the mantissa need not be normal. -/
def Binary64.leastExponent : Int := -1074

/-- The parts of a double, unless it is infinite or no number. -/
def Binary64.ofFloat? (f : Float) : Option Binary64 :=
  let bits := f.toBits.toNat
  let negative : Bool := bits / Nat.pow 2 63 = 1
  let biased : Nat := bits / Nat.pow 2 52 % 2048
  let fraction : Nat := bits % Nat.pow 2 52
  if biased = 2047 then none
  else if biased = 0 then some ⟨negative, fraction, leastExponent⟩
  else some ⟨negative, fraction + Nat.pow 2 52, (biased : Int) - 1075⟩

namespace Binary64

def isZero (b : Binary64) : Bool := b.mantissa = 0

/-- The magnitude without its fraction. -/
def truncated (b : Binary64) : Nat :=
  match b.exponent with
  | .ofNat k => b.mantissa * Nat.pow 2 k
  | .negSucc k => b.mantissa / Nat.pow 2 (k + 1)

/-- The magnitude at the nearest whole number, a half going up. -/
def rounded (b : Binary64) : Nat :=
  match b.exponent with
  | .ofNat k => b.mantissa * Nat.pow 2 k
  | .negSucc k => (b.mantissa + Nat.pow 2 k) / Nat.pow 2 (k + 1)

/-- Whether the number has no fraction. -/
def IsWhole (b : Binary64) : Prop :=
  match b.exponent with
  | .ofNat _ => True
  | .negSucc k => Nat.pow 2 (k + 1) ∣ b.mantissa

/-- Rounding and truncating agree on a number without a fraction. -/
theorem rounded_eq_truncated {b : Binary64} (h : b.IsWhole) : b.rounded = b.truncated := by
  unfold IsWhole at h
  unfold rounded truncated
  split at h
  · simp
  · next k hk =>
    obtain ⟨m, hm⟩ := h
    have hpos : 0 < Nat.pow 2 (k + 1) := Nat.two_pow_pos _
    have hlt : Nat.pow 2 k < Nat.pow 2 (k + 1) := Nat.pow_lt_pow_right (by decide) (Nat.lt_succ_self k)
    rw [hm, Nat.add_comm, Nat.add_mul_div_left _ _ hpos, Nat.mul_div_cancel_left _ hpos, Nat.div_eq_of_lt hlt,
      Nat.zero_add]

end Binary64
end DatastoreAccess.Number
