/-!
# Text.Base64Url — the unpadded URL alphabet

Four characters are three bytes; a last group of two or three characters is one or two bytes, and the bits it does not
use must be zero.  So every byte sequence has one written form and all other texts are refused.
-/
namespace DatastoreAccess.Text.Base64Url

/-- The six bits of a character of the alphabet. -/
def sextet? (c : Char) : Option Nat :=
  if 'A' ≤ c ∧ c ≤ 'Z' then some (c.toNat - 65)
  else if 'a' ≤ c ∧ c ≤ 'z' then some (c.toNat - 71)
  else if '0' ≤ c ∧ c ≤ '9' then some (c.toNat + 4)
  else if c = '-' then some 62
  else if c = '_' then some 63
  else none

/-- The bytes that groups of six bits stand for. -/
def bytes? : List Nat → Option (List UInt8)
  | [] => some []
  | [_] => none
  | [a, b] => if b % 16 = 0 then some [.ofNat (a * 4 + b / 16)] else none
  | [a, b, c] =>
    if c % 4 = 0 then some [.ofNat (a * 4 + b / 16), .ofNat (b % 16 * 16 + c / 4)] else none
  | a :: b :: c :: d :: l =>
    (bytes? l).map fun r =>
      .ofNat (a * 4 + b / 16) :: .ofNat (b % 16 * 16 + c / 4) :: .ofNat (c % 4 * 64 + d) :: r

/-- The character of six bits. -/
def letter (n : Nat) : Char :=
  if n < 26 then Char.ofNat (n + 65)
  else if n < 52 then Char.ofNat (n + 71)
  else if n < 62 then Char.ofNat (n - 4)
  else if n = 62 then '-'
  else '_'

/-- The groups of six bits that bytes are written with. -/
def sextets : List UInt8 → List Nat
  | [] => []
  | [a] => [a.toNat / 4, a.toNat % 4 * 16]
  | [a, b] => [a.toNat / 4, a.toNat % 4 * 16 + b.toNat / 16, b.toNat % 16 * 4]
  | a :: b :: c :: l =>
    a.toNat / 4 :: (a.toNat % 4 * 16 + b.toNat / 16) :: (b.toNat % 16 * 4 + c.toNat / 64) :: c.toNat % 64 :: sextets l

def encode (bs : List UInt8) : List Char := (sextets bs).map letter

def decode? (cs : List Char) : Option (List UInt8) := (cs.mapM sextet?).bind bytes?

/-! ## Reading back -/

theorem sextet?_letter {n : Nat} (h : n < 64) : sextet? (letter n) = some n := by
  have all : ∀ m < 64, sextet? (letter m) = some m := by decide
  exact all n h

theorem lt_of_mem_sextets {bs : List UInt8} {n : Nat} (h : n ∈ sextets bs) : n < 64 := by
  fun_induction sextets bs with
  | case1 => simp at h
  | case2 a => have := a.toNat_lt; simp at h; omega
  | case3 a b => have := a.toNat_lt; have := b.toNat_lt; simp at h; omega
  | case4 a b c l ih =>
    have := a.toNat_lt; have := b.toNat_lt; have := c.toNat_lt
    simp only [List.mem_cons] at h
    rcases h with h | h | h | h | h
    · omega
    · omega
    · omega
    · omega
    · exact ih h

theorem ofNat_eq {b : UInt8} {n : Nat} (h : n = b.toNat) : UInt8.ofNat n = b := by
  subst h; simp

theorem bytes?_sextets (bs : List UInt8) : bytes? (sextets bs) = some bs := by
  fun_induction sextets bs with
  | case1 => rfl
  | case2 a =>
    have := a.toNat_lt
    rw [bytes?, if_pos (by omega), ofNat_eq (b := a) (by omega)]
  | case3 a b =>
    have := a.toNat_lt; have := b.toNat_lt
    rw [bytes?, if_pos (by omega), ofNat_eq (b := a) (by omega), ofNat_eq (b := b) (by omega)]
  | case4 a b c l ih =>
    have := a.toNat_lt; have := b.toNat_lt; have := c.toNat_lt
    rw [bytes?, ih, Option.map_some, ofNat_eq (b := a) (by omega), ofNat_eq (b := b) (by omega),
      ofNat_eq (b := c) (by omega)]

theorem decode?_encode (bs : List UInt8) : decode? (encode bs) = some bs := by
  have go (l : List Nat) (h : ∀ n ∈ l, n < 64) : (l.map letter).mapM sextet? = some l := by
    induction l with
    | nil => rfl
    | cons n l ih => simp [List.mapM_cons, sextet?_letter (h n (by simp)), ih fun m hm => h m (by simp [hm])]
  rw [decode?, encode, go _ fun n => lt_of_mem_sextets, Option.bind_some, bytes?_sextets]

end DatastoreAccess.Text.Base64Url
