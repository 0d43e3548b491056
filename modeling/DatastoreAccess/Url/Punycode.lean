import DatastoreAccess.Text.Split
/-!
# Url.Punycode — labels written in ASCII

A label with other characters can be written as its ASCII characters, a hyphen, and a string of base-36 numbers that say
which character to insert where.  Every number is relative to the one before it.
-/
namespace DatastoreAccess.Url.Punycode

def digit? (c : Char) : Option Nat :=
  if 'a' ≤ c ∧ c ≤ 'z' then some (c.toNat - 97)
  else if 'A' ≤ c ∧ c ≤ 'Z' then some (c.toNat - 65)
  else if '0' ≤ c ∧ c ≤ '9' then some (c.toNat - 22)
  else none

/-- The least digit that ends no number at place `k`. -/
def threshold (k bias : Nat) : Nat := if k ≤ bias then 1 else if bias + 26 ≤ k then 26 else k - bias

def adaptSteps : (rounds : Nat) → (delta k : Nat) → Nat
  | 0, delta, k => k + 36 * delta / (delta + 38)
  | rounds + 1, delta, k => if 455 < delta then adaptSteps rounds (delta / 35) (k + 36) else k + 36 * delta / (delta + 38)

/-- The bias after a number, which keeps the next ones short. -/
def adapt (delta count : Nat) (first : Bool) : Nat :=
  let delta := if first then delta / 700 else delta / 2
  adaptSteps 32 (delta + delta / count) 0

/-- A number in the course of being read. -/
structure Number where
  value : Nat
  weight : Nat
  place : Nat
  begun : Bool

def Number.fresh (i : Nat) : Number := ⟨i, 1, 36, false⟩

def wordLimit : Nat := Nat.pow 2 32

/-- Reads the numbers and inserts their characters into `out`; the last insertion was before place `i`. -/
def insertAll : List Char → (out : List Char) → (code i bias : Nat) → Number → Option (List Char)
  | [], out, _, _, _, number => if number.begun then none else some out
  | c :: cs, out, code, i, bias, number =>
    match digit? c with
    | none => none
    | some d =>
      let value := number.value + d * number.weight
      let t := threshold number.place bias
      if wordLimit ≤ value then none
      else if t ≤ d then
        insertAll cs out code i bias ⟨value, number.weight * (36 - t), number.place + 36, true⟩
      else
        let count := out.length + 1
        let code := code + value / count
        let place := value % count
        if h : code.isValidChar then
          insertAll cs (out.take place ++ Char.ofNatAux code h :: out.drop place) code (place + 1)
            (adapt (value - i) count (i = 0)) (Number.fresh (place + 1))
        else none

/-- The characters that a written label stands for.  A hyphen in front of all others separates nothing. -/
def decode? (cs : List Char) : Option (List Char) :=
  let (basic, tail) := match Text.splitLast '-' cs with
    | some ([], _) => ([], cs)
    | some (basic, tail) => (basic, tail)
    | none => ([], cs)
  insertAll tail basic 128 0 72 (Number.fresh 0)

end DatastoreAccess.Url.Punycode
