import DatastoreAccess.Digest.Sha2
/-!
# Digest.Blake3 — BLAKE3

The message is cut into chunks of 1024 bytes, the leaves of a binary tree whose left side always holds the largest
power of two of chunks.  Every node is one compression; the topmost gives the digest.
-/
namespace DatastoreAccess.Digest.Blake3

def start : List UInt32 :=
  [0x6a09e667, 0xbb67ae85, 0x3c6ef372, 0xa54ff53a, 0x510e527f, 0x9b05688c, 0x1f83d9ab, 0x5be0cd19]

/-- The order in which a round takes the words that the round before it took in order. -/
def order : List Nat := [2, 6, 3, 10, 7, 0, 4, 13, 1, 11, 12, 5, 9, 14, 15, 8]

def chunkStart : UInt32 := 1
def chunkEnd : UInt32 := 2
def parent : UInt32 := 4
def root : UInt32 := 8

def rotate (x : UInt32) (n : UInt32) : UInt32 := (x >>> n) ||| (x <<< (32 - n))

/-- Mixes two message words into four of the sixteen state words. -/
def mix (v : Array UInt32) (a b c d : Nat) (x y : UInt32) : Array UInt32 :=
  let va := v.getD a 0 + v.getD b 0 + x
  let vd := rotate (v.getD d 0 ^^^ va) 16
  let vc := v.getD c 0 + vd
  let vb := rotate (v.getD b 0 ^^^ vc) 12
  let va := va + vb + y
  let vd := rotate (vd ^^^ va) 8
  let vc := vc + vd
  let vb := rotate (vb ^^^ vc) 7
  (((v.setIfInBounds a va).setIfInBounds b vb).setIfInBounds c vc).setIfInBounds d vd

/-- The columns, then the diagonals. -/
def round (v : Array UInt32) (m : List UInt32) : Array UInt32 :=
  let w (i : Nat) := m.getD i 0
  let v := mix v 0 4 8 12 (w 0) (w 1)
  let v := mix v 1 5 9 13 (w 2) (w 3)
  let v := mix v 2 6 10 14 (w 4) (w 5)
  let v := mix v 3 7 11 15 (w 6) (w 7)
  let v := mix v 0 5 10 15 (w 8) (w 9)
  let v := mix v 1 6 11 12 (w 10) (w 11)
  let v := mix v 2 7 8 13 (w 12) (w 13)
  mix v 3 4 9 14 (w 14) (w 15)

def rounds : (more : Nat) → Array UInt32 → List UInt32 → Array UInt32
  | 0, v, _ => v
  | more + 1, v, m => rounds more (round v m) (order.map fun i => m.getD i 0)

/-- What a node is compressed from. -/
structure Node where
  chaining : List UInt32
  words : List UInt32
  counter : Nat
  length : Nat
  flags : UInt32

/-- The eight words that a node hands on. -/
def Node.words8 (n : Node) (more : UInt32) : List UInt32 :=
  let tail : List UInt32 := [UInt32.ofNat n.counter, UInt32.ofNat (n.counter >>> 32), UInt32.ofNat n.length, n.flags ||| more]
  let v := rounds 7 (n.chaining ++ start.take 4 ++ tail).toArray n.words
  (List.range 8).map fun i => v.getD i 0 ^^^ v.getD (i + 8) 0

def littleEndian (bs : List UInt8) : UInt32 := UInt32.ofNat (bs.foldr (fun b n => n * 256 + b.toNat) 0)

/-- The sixteen words of a block, filled up with zeros. -/
def blockWords (bs : List UInt8) : List UInt32 :=
  (cut 4 16 (bs ++ List.replicate (64 - bs.length) 0)).map littleEndian

/-- The last node of a chunk, from its blocks and the flags of the next. -/
def chunkNode (counter : Nat) : List UInt32 → UInt32 → List (List UInt8) → Node
  | cv, flags, [] => ⟨cv, blockWords [], counter, 0, flags ||| chunkEnd⟩
  | cv, flags, [b] => ⟨cv, blockWords b, counter, b.length, flags ||| chunkEnd⟩
  | cv, flags, b :: bs => chunkNode counter ((Node.mk cv (blockWords b) counter b.length flags).words8 0) 0 bs

def parentNode (left right : Node) : Node := ⟨start, left.words8 0 ++ right.words8 0, 0, 64, parent⟩

/-- The largest power of two below `n`. -/
def leftChunks (n : Nat) : Nat := Nat.pow 2 (n - 1).log2

/-- The top of the tree over `bs`, whose first chunk has number `first`. -/
def tree : (fuel : Nat) → (first : Nat) → List UInt8 → Node
  | 0, first, bs => chunkNode first start chunkStart (cut 64 16 bs)
  | fuel + 1, first, bs =>
    if bs.length ≤ 1024 then chunkNode first start chunkStart (cut 64 16 bs)
    else
      let left := leftChunks ((bs.length + 1023) / 1024)
      parentNode (tree fuel first (bs.take (left * 1024))) (tree fuel (first + left) (bs.drop (left * 1024)))

/-- The 32 bytes of the digest. -/
def hash (bs : List UInt8) : List UInt8 :=
  ((tree bs.length 0 bs).words8 root).flatMap fun (w : UInt32) =>
    [w.toUInt8, (w >>> 8).toUInt8, (w >>> 16).toUInt8, (w >>> 24).toUInt8]

end DatastoreAccess.Digest.Blake3
