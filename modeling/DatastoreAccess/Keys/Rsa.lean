import DatastoreAccess.Digest.Sha2
/-!
# Keys.Rsa — RSA signatures over a digest

A signature is a number as long as the modulus.  Raised to the public exponent it must be exactly the padded digest:
`00 01 FF … FF 00`, the label of the digest, the digest.  Keys outside the accepted sizes verify nothing.
-/
namespace DatastoreAccess.Rsa

/-- A public key as published: big-endian bytes, without a leading zero. -/
structure PublicKey where
  modulus : List UInt8
  exponent : List UInt8
  deriving DecidableEq, Repr

inductive Hash where
  | sha256
  | sha512
  deriving DecidableEq, Repr

def Hash.digest : Hash → List UInt8 → List UInt8
  | .sha256 => Digest.sha256
  | .sha512 => Digest.sha512

/-- The bytes that name the digest in front of it. -/
def Hash.label : Hash → List UInt8
  | .sha256 =>
    [0x30, 0x31, 0x30, 0x0D, 0x06, 0x09, 0x60, 0x86, 0x48, 0x01, 0x65, 0x03, 0x04, 0x02, 0x01, 0x05, 0x00, 0x04, 0x20]
  | .sha512 =>
    [0x30, 0x51, 0x30, 0x0D, 0x06, 0x09, 0x60, 0x86, 0x48, 0x01, 0x65, 0x03, 0x04, 0x02, 0x03, 0x05, 0x00, 0x04, 0x40]

/-- How many bits a number has. -/
def bitLength (n : Nat) : Nat := if n = 0 then 0 else n.log2 + 1

def startsNonzero : List UInt8 → Bool
  | [] => false
  | b :: _ => b ≠ 0

/-- Sizes accepted: moduli of 2048 to 8192 bits, odd exponents of 2 to 33 bits. -/
def PublicKey.acceptable (k : PublicKey) : Bool :=
  let n := Digest.bigEndian k.modulus
  let e := Digest.bigEndian k.exponent
  startsNonzero k.modulus && startsNonzero k.exponent &&
    2048 ≤ bitLength n && bitLength n ≤ 8192 && n % 2 = 1 &&
    2 ≤ bitLength e && bitLength e ≤ 33 && e % 2 = 1

/-- `base ^ e % n` by squaring, over `bits` bits of the exponent. -/
def powMod (n : Nat) : (bits : Nat) → (base e : Nat) → Nat
  | 0, _, _ => 1 % n
  | bits + 1, base, e =>
    let rest := powMod n bits (base * base % n) (e / 2)
    if e % 2 = 1 then base * rest % n else rest

/-- The padded digest of a message, `size` bytes long. -/
def padded (h : Hash) (size : Nat) (msg : List UInt8) : List UInt8 :=
  let tail := 0x00 :: h.label ++ h.digest msg
  0x00 :: 0x01 :: List.replicate (size - 2 - tail.length) 0xFF ++ tail

def PublicKey.verifies (k : PublicKey) (h : Hash) (msg sig : List UInt8) : Bool :=
  let n := Digest.bigEndian k.modulus
  let e := Digest.bigEndian k.exponent
  let s := Digest.bigEndian sig
  k.acceptable && sig.length = k.modulus.length && s < n &&
    powMod n (bitLength e) s e = Digest.bigEndian (padded h k.modulus.length msg)

theorem powMod_eq (n bits base e : Nat) (h : e < Nat.pow 2 bits) :
    powMod n bits base e = Nat.pow base e % n := by
  induction bits generalizing base e with
  | zero =>
    obtain rfl : e = 0 := by simpa using h
    simp [powMod]
  | succ bits ih =>
    have hbits : e < Nat.pow 2 bits * 2 := h
    have he : e / 2 < Nat.pow 2 bits := by omega
    have hsq : Nat.pow (base * base % n) (e / 2) % n = Nat.pow base (2 * (e / 2)) % n := by
      show (base * base % n) ^ (e / 2) % n = base ^ (2 * (e / 2)) % n
      rw [← Nat.pow_mod, Nat.pow_mul, Nat.pow_two]
    unfold powMod
    simp only [ih _ _ he, hsq]
    split
    · next ho =>
      have hodd : Nat.pow base e = base * Nat.pow base (2 * (e / 2)) := by
        conv => lhs; rw [show e = 2 * (e / 2) + 1 by omega]
        exact Nat.mul_comm _ _
      rw [hodd, Nat.mul_mod, Nat.mod_mod, ← Nat.mul_mod]
    · next ho =>
      conv => rhs; rw [show e = 2 * (e / 2) by omega]

end DatastoreAccess.Rsa
