/-!
# Digest.Sha2 — SHA-256 and SHA-512

Both digests pad the message to whole blocks (a one bit, zeros, the length in bits), and fold a compression over the
blocks.  Each block is spread into a schedule of words, and one round per schedule word turns the eight working words.
-/
namespace DatastoreAccess.Digest

/-- A message padded to blocks of `block` bytes, the last `lengthBytes` of which hold its length in bits. -/
def padded (block lengthBytes : Nat) (msg : List UInt8) : List UInt8 :=
  let used := (msg.length + 1 + lengthBytes) % block
  let zeros := (block - used) % block
  let bits := msg.length * 8
  msg ++ 0x80 :: List.replicate zeros 0 ++
    (List.range lengthBytes).map fun i => UInt8.ofNat (bits >>> (8 * (lengthBytes - 1 - i)))

/-- Cuts a list into pieces of `size`, the last of which may be shorter. -/
def cut {α : Type} (size : Nat) : (fuel : Nat) → List α → List (List α)
  | 0, _ => []
  | fuel + 1, l => if l.isEmpty then [] else l.take size :: cut size fuel (l.drop size)

def bigEndian (bs : List UInt8) : Nat := bs.foldl (fun n b => n * 256 + b.toNat) 0

/-- The eight working words. -/
structure Eight (α : Type) where
  a : α
  b : α
  c : α
  d : α
  e : α
  f : α
  g : α
  h : α

def Eight.zipWith {α : Type} (op : α → α → α) (x y : Eight α) : Eight α :=
  ⟨op x.a y.a, op x.b y.b, op x.c y.c, op x.d y.d, op x.e y.e, op x.f y.f, op x.g y.g, op x.h y.h⟩

def Eight.toList {α : Type} (x : Eight α) : List α := [x.a, x.b, x.c, x.d, x.e, x.f, x.g, x.h]

/-! ## SHA-256 -/

namespace Sha256

def constants : List UInt32 :=
  [0x428a2f98, 0x71374491, 0xb5c0fbcf, 0xe9b5dba5, 0x3956c25b, 0x59f111f1, 0x923f82a4, 0xab1c5ed5,
   0xd807aa98, 0x12835b01, 0x243185be, 0x550c7dc3, 0x72be5d74, 0x80deb1fe, 0x9bdc06a7, 0xc19bf174,
   0xe49b69c1, 0xefbe4786, 0x0fc19dc6, 0x240ca1cc, 0x2de92c6f, 0x4a7484aa, 0x5cb0a9dc, 0x76f988da,
   0x983e5152, 0xa831c66d, 0xb00327c8, 0xbf597fc7, 0xc6e00bf3, 0xd5a79147, 0x06ca6351, 0x14292967,
   0x27b70a85, 0x2e1b2138, 0x4d2c6dfc, 0x53380d13, 0x650a7354, 0x766a0abb, 0x81c2c92e, 0x92722c85,
   0xa2bfe8a1, 0xa81a664b, 0xc24b8b70, 0xc76c51a3, 0xd192e819, 0xd6990624, 0xf40e3585, 0x106aa070,
   0x19a4c116, 0x1e376c08, 0x2748774c, 0x34b0bcb5, 0x391c0cb3, 0x4ed8aa4a, 0x5b9cca4f, 0x682e6ff3,
   0x748f82ee, 0x78a5636f, 0x84c87814, 0x8cc70208, 0x90befffa, 0xa4506ceb, 0xbef9a3f7, 0xc67178f2]

def start : Eight UInt32 :=
  ⟨0x6a09e667, 0xbb67ae85, 0x3c6ef372, 0xa54ff53a, 0x510e527f, 0x9b05688c, 0x1f83d9ab, 0x5be0cd19⟩

def rotate (x : UInt32) (n : UInt32) : UInt32 := (x >>> n) ||| (x <<< (32 - n))

/-- The next schedule word from the sixteen before it, latest first. -/
def nextWord (w : List UInt32) : UInt32 :=
  let s0 (x : UInt32) := rotate x 7 ^^^ rotate x 18 ^^^ (x >>> 3)
  let s1 (x : UInt32) := rotate x 17 ^^^ rotate x 19 ^^^ (x >>> 10)
  s1 (w.getD 1 0) + w.getD 6 0 + s0 (w.getD 14 0) + w.getD 15 0

/-- The schedule, latest word first. -/
def spread : (more : Nat) → List UInt32 → List UInt32
  | 0, w => w
  | more + 1, w => spread more (nextWord w :: w)

def turn (x : Eight UInt32) (kw : UInt32 × UInt32) : Eight UInt32 :=
  let s1 := rotate x.e 6 ^^^ rotate x.e 11 ^^^ rotate x.e 25
  let choice := (x.e &&& x.f) ^^^ (~~~x.e &&& x.g)
  let t1 := x.h + s1 + choice + kw.1 + kw.2
  let s0 := rotate x.a 2 ^^^ rotate x.a 13 ^^^ rotate x.a 22
  let majority := (x.a &&& x.b) ^^^ (x.a &&& x.c) ^^^ (x.b &&& x.c)
  ⟨t1 + (s0 + majority), x.a, x.b, x.c, x.d + t1, x.e, x.f, x.g⟩

def compress (x : Eight UInt32) (block : List UInt8) : Eight UInt32 :=
  let words := (cut 4 16 block).map fun bs => UInt32.ofNat (bigEndian bs)
  let schedule := (spread 48 words.reverse).reverse
  ((constants.zip schedule).foldl turn x).zipWith (· + ·) x

end Sha256

/-- The 32 bytes of SHA-256. -/
def sha256 (msg : List UInt8) : List UInt8 :=
  let p := padded 64 8 msg
  ((cut 64 p.length p).foldl Sha256.compress Sha256.start).toList.flatMap fun (w : UInt32) =>
    [(w >>> 24).toUInt8, (w >>> 16).toUInt8, (w >>> 8).toUInt8, w.toUInt8]

/-! ## SHA-512 -/

namespace Sha512

def constants : List UInt64 :=
  [0x428a2f98d728ae22, 0x7137449123ef65cd, 0xb5c0fbcfec4d3b2f, 0xe9b5dba58189dbbc,
   0x3956c25bf348b538, 0x59f111f1b605d019, 0x923f82a4af194f9b, 0xab1c5ed5da6d8118,
   0xd807aa98a3030242, 0x12835b0145706fbe, 0x243185be4ee4b28c, 0x550c7dc3d5ffb4e2,
   0x72be5d74f27b896f, 0x80deb1fe3b1696b1, 0x9bdc06a725c71235, 0xc19bf174cf692694,
   0xe49b69c19ef14ad2, 0xefbe4786384f25e3, 0x0fc19dc68b8cd5b5, 0x240ca1cc77ac9c65,
   0x2de92c6f592b0275, 0x4a7484aa6ea6e483, 0x5cb0a9dcbd41fbd4, 0x76f988da831153b5,
   0x983e5152ee66dfab, 0xa831c66d2db43210, 0xb00327c898fb213f, 0xbf597fc7beef0ee4,
   0xc6e00bf33da88fc2, 0xd5a79147930aa725, 0x06ca6351e003826f, 0x142929670a0e6e70,
   0x27b70a8546d22ffc, 0x2e1b21385c26c926, 0x4d2c6dfc5ac42aed, 0x53380d139d95b3df,
   0x650a73548baf63de, 0x766a0abb3c77b2a8, 0x81c2c92e47edaee6, 0x92722c851482353b,
   0xa2bfe8a14cf10364, 0xa81a664bbc423001, 0xc24b8b70d0f89791, 0xc76c51a30654be30,
   0xd192e819d6ef5218, 0xd69906245565a910, 0xf40e35855771202a, 0x106aa07032bbd1b8,
   0x19a4c116b8d2d0c8, 0x1e376c085141ab53, 0x2748774cdf8eeb99, 0x34b0bcb5e19b48a8,
   0x391c0cb3c5c95a63, 0x4ed8aa4ae3418acb, 0x5b9cca4f7763e373, 0x682e6ff3d6b2b8a3,
   0x748f82ee5defb2fc, 0x78a5636f43172f60, 0x84c87814a1f0ab72, 0x8cc702081a6439ec,
   0x90befffa23631e28, 0xa4506cebde82bde9, 0xbef9a3f7b2c67915, 0xc67178f2e372532b,
   0xca273eceea26619c, 0xd186b8c721c0c207, 0xeada7dd6cde0eb1e, 0xf57d4f7fee6ed178,
   0x06f067aa72176fba, 0x0a637dc5a2c898a6, 0x113f9804bef90dae, 0x1b710b35131c471b,
   0x28db77f523047d84, 0x32caab7b40c72493, 0x3c9ebe0a15c9bebc, 0x431d67c49c100d4c,
   0x4cc5d4becb3e42b6, 0x597f299cfc657e2a, 0x5fcb6fab3ad6faec, 0x6c44198c4a475817]

def start : Eight UInt64 :=
  ⟨0x6a09e667f3bcc908, 0xbb67ae8584caa73b, 0x3c6ef372fe94f82b, 0xa54ff53a5f1d36f1,
   0x510e527fade682d1, 0x9b05688c2b3e6c1f, 0x1f83d9abfb41bd6b, 0x5be0cd19137e2179⟩

def rotate (x : UInt64) (n : UInt64) : UInt64 := (x >>> n) ||| (x <<< (64 - n))

/-- The next schedule word from the sixteen before it, latest first. -/
def nextWord (w : List UInt64) : UInt64 :=
  let s0 (x : UInt64) := rotate x 1 ^^^ rotate x 8 ^^^ (x >>> 7)
  let s1 (x : UInt64) := rotate x 19 ^^^ rotate x 61 ^^^ (x >>> 6)
  s1 (w.getD 1 0) + w.getD 6 0 + s0 (w.getD 14 0) + w.getD 15 0

/-- The schedule, latest word first. -/
def spread : (more : Nat) → List UInt64 → List UInt64
  | 0, w => w
  | more + 1, w => spread more (nextWord w :: w)

def turn (x : Eight UInt64) (kw : UInt64 × UInt64) : Eight UInt64 :=
  let s1 := rotate x.e 14 ^^^ rotate x.e 18 ^^^ rotate x.e 41
  let choice := (x.e &&& x.f) ^^^ (~~~x.e &&& x.g)
  let t1 := x.h + s1 + choice + kw.1 + kw.2
  let s0 := rotate x.a 28 ^^^ rotate x.a 34 ^^^ rotate x.a 39
  let majority := (x.a &&& x.b) ^^^ (x.a &&& x.c) ^^^ (x.b &&& x.c)
  ⟨t1 + (s0 + majority), x.a, x.b, x.c, x.d + t1, x.e, x.f, x.g⟩

def compress (x : Eight UInt64) (block : List UInt8) : Eight UInt64 :=
  let words := (cut 8 16 block).map fun bs => UInt64.ofNat (bigEndian bs)
  let schedule := (spread 64 words.reverse).reverse
  ((constants.zip schedule).foldl turn x).zipWith (· + ·) x

end Sha512

/-- The 64 bytes of SHA-512. -/
def sha512 (msg : List UInt8) : List UInt8 :=
  let p := padded 128 16 msg
  ((cut 128 p.length p).foldl Sha512.compress Sha512.start).toList.flatMap fun (w : UInt64) =>
    [(w >>> 56).toUInt8, (w >>> 48).toUInt8, (w >>> 40).toUInt8, (w >>> 32).toUInt8,
      (w >>> 24).toUInt8, (w >>> 16).toUInt8, (w >>> 8).toUInt8, w.toUInt8]

end DatastoreAccess.Digest
