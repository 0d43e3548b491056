import DatastoreAccess.Token.Claims
/-!
# Token.Expiry — when a token is over

Two readings of the expiry stand side by side.  The *signed* reading rounds a fraction to the nearest second, takes
nothing but a number for an expiry, and cannot count back beyond the start of time: its subtraction is checked.  The
*plain* reading drops the fraction, takes null for an absent expiry, and stops counting back at zero.
-/
namespace DatastoreAccess.Token

/-- What stands as expiry. -/
inductive Stamp where
  | absent
  | at (second : Nat)
  | unreadable
  deriving DecidableEq, Repr

namespace Stamp

/-- The nearest second of a number, a half going up; numbers below zero and beyond 64 bits have none. -/
def nearestSecond? : Json.Number → Option Nat
  | .integer n => if 0 ≤ n then some n.toNat else none
  | .float f =>
    match Number.Binary64.ofFloat? f with
    | some b =>
      if (b.negative ∧ ¬b.isZero) ∨ Number.wordLimit ≤ b.truncated then none else some (min b.rounded Claims.lastInstant)
    | none => none

def signed : Option Json → Stamp
  | none => .absent
  | some (.number n) =>
    match nearestSecond? n with
    | some t => .at t
    | none => .unreadable
  | some _ => .unreadable

def plain (c : Claims) : Stamp :=
  if c.contains Claims.expiration then
    match c.expiresAt with
    | some t => .at t
    | none => .unreadable
  else .absent

end Stamp

/-- The first second that still counts, `none` if the leeway exceeds the time. -/
def signedFloor? (now leeway : UInt64) : Option Nat :=
  if leeway ≤ now then some (now - leeway).toNat else none

/-- The first second that still counts, not before zero. -/
def plainFloor (now leeway : UInt64) : Nat := now.toNat - leeway.toNat

/-- Up to now, the two floors agree. -/
theorem signedFloor?_of_le {now leeway : UInt64} (h : leeway ≤ now) :
    signedFloor? now leeway = some (plainFloor now leeway) := by
  rw [signedFloor?, if_pos h, UInt64.toNat_sub_of_le _ _ h, plainFloor]

theorem signedFloor?_of_lt {now leeway : UInt64} (h : now < leeway) : signedFloor? now leeway = none :=
  if_neg (UInt64.not_le.2 h)

end DatastoreAccess.Token
