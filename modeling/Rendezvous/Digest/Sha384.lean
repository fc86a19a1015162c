/-!
# SHA-384

The digest of 48 bytes from FIPS 180-4: the message is padded with a one bit, zeros and its length
in 128 bits to blocks of 128 bytes; eight words of 64 bits are worked through 80 rounds for each
block; the first six words are the digest. All additions wrap at 64 bits.
-/

namespace Rendezvous.Sha384

/-- The round constants: the first 64 bits of the fractional parts of the cube roots of the first
eighty primes. -/
def roundConstants : Array UInt64 := #[
  0x428a2f98d728ae22, 0x7137449123ef65cd, 0xb5c0fbcfec4d3b2f, 0xe9b5dba58189dbbc,
  0x3956c25bf348b538, 0x59f111f1b605d019, 0x923f82a4af194f9b, 0xab1c5ed5da6d8118,
  0xd807aa98a3030242, 0x12835b0145706fbe, 0x243185be4ee4b28c, 0x550c7dc3d5ffb4e2,
  0x72be5d74f27b896f, 0x80deb1fe3b1696b1, 0x9bdc06a725c71235, 0xc19bf174cf692694,
  0xe49b69c19ef14ad2, 0xefbe4786384f25e3, 0x0fc19dc68b8cd5b5, 0x240ca1cc77ac9c65,
  0x2de92c6f592b0275, 0x4a7484aa6ea6e483, 0x5cb0a9dcbd41fbd4, 0x76f988da831153b5,
  0x983e5152ee66dfab, 0xa831c66d2db43210, 0xb00327c898fb213f, 0xbf597fc7beef0ee4,
  0xc6e00bf33da88fc2, 0xd5a79147930aa725, 0x06ca6351e003826f, 0x142929670a0e6e70,
  0x27b70a8546d22ffc, 0x2e1b21385c26c926, 0x4d2c6dfc5ac42aed, 0x53380d139d95b3df,
  0x650a73548baf63de, 0x766a0abb3c77b2a8, 0x81c2c92e47edaee6, 0x92722c851482353b,
  0xa2bfe8a14cf10364, 0xa81a664bbc423001, 0xc24b8b70d0f89791, 0xc76c51a30654be30,
  0xd192e819d6ef5218, 0xd69906245565a910, 0xf40e35855771202a, 0x106aa07032bbd1b8,
  0x19a4c116b8d2d0c8, 0x1e376c085141ab53, 0x2748774cdf8eeb99, 0x34b0bcb5e19b48a8,
  0x391c0cb3c5c95a63, 0x4ed8aa4ae3418acb, 0x5b9cca4f7763e373, 0x682e6ff3d6b2b8a3,
  0x748f82ee5defb2fc, 0x78a5636f43172f60, 0x84c87814a1f0ab72, 0x8cc702081a6439ec,
  0x90befffa23631e28, 0xa4506cebde82bde9, 0xbef9a3f7b2c67915, 0xc67178f2e372532b,
  0xca273eceea26619c, 0xd186b8c721c0c207, 0xeada7dd6cde0eb1e, 0xf57d4f7fee6ed178,
  0x06f067aa72176fba, 0x0a637dc5a2c898a6, 0x113f9804bef90dae, 0x1b710b35131c471b,
  0x28db77f523047d84, 0x32caab7b40c72493, 0x3c9ebe0a15c9bebc, 0x431d67c49c100d4c,
  0x4cc5d4becb3e42b6, 0x597f299cfc657e2a, 0x5fcb6fab3ad6faec, 0x6c44198c4a475817]

/-- The eight words that a digest is worked from. -/
structure Registers where
  a : UInt64
  b : UInt64
  c : UInt64
  d : UInt64
  e : UInt64
  f : UInt64
  g : UInt64
  h : UInt64

/-- The words before the first block. -/
def initial : Registers where
  a := 0xcbbb9d5dc1059ed8
  b := 0x629a292a367cd507
  c := 0x9159015a3070dd17
  d := 0x152fecd8f70e5939
  e := 0x67332667ffc00b31
  f := 0x8eb44a8768581511
  g := 0xdb0c2e0d64f98fa7
  h := 0x47b5481dbefa4fa4

/-- A word turned to the right by `n` bits. -/
def rotate (x n : UInt64) : UInt64 :=
  (x >>> n) ||| (x <<< (64 - n))

/-- Eight bytes as a word, the highest first. -/
def word (bytes : List UInt8) : UInt64 :=
  bytes.foldl (fun w b => (w <<< 8) ||| b.toUInt64) 0

/-- A word as eight bytes, the highest first. -/
def wordBytes (w : UInt64) : List UInt8 :=
  (List.range 8).map fun i => (w >>> UInt64.ofNat (56 - 8 * i)).toUInt8

/-- The first `n` words of a block. -/
def blockWords : Nat → List UInt8 → List UInt64
  | 0, _ => []
  | n + 1, bytes => word (bytes.take 8) :: blockWords n (bytes.drop 8)

/-- The words of a block extended by `n` more, each made of four of the sixteen before it. -/
def extend : Nat → Array UInt64 → Array UInt64
  | 0, w => w
  | n + 1, w =>
    let t := w.size
    let x := w.getD (t - 15) 0
    let y := w.getD (t - 2) 0
    let s0 := rotate x 1 ^^^ rotate x 8 ^^^ (x >>> 7)
    let s1 := rotate y 19 ^^^ rotate y 61 ^^^ (y >>> 6)
    extend n (w.push (w.getD (t - 16) 0 + s0 + w.getD (t - 7) 0 + s1))

/-- One round with the constant `k` and the word `w`. -/
def round (r : Registers) (k w : UInt64) : Registers :=
  let s1 := rotate r.e 14 ^^^ rotate r.e 18 ^^^ rotate r.e 41
  let choice := (r.e &&& r.f) ^^^ (~~~r.e &&& r.g)
  let t1 := r.h + s1 + choice + k + w
  let s0 := rotate r.a 28 ^^^ rotate r.a 34 ^^^ rotate r.a 39
  let majority := (r.a &&& r.b) ^^^ (r.a &&& r.c) ^^^ (r.b &&& r.c)
  ⟨t1 + s0 + majority, r.a, r.b, r.c, r.d + t1, r.e, r.f, r.g⟩

/-- The words after a block of 128 bytes. -/
def absorb (r : Registers) (block : List UInt8) : Registers :=
  let w := extend 64 (blockWords 16 block).toArray
  let s := (List.range 80).foldl
    (fun s t => round s (roundConstants.getD t 0) (w.getD t 0)) r
  ⟨r.a + s.a, r.b + s.b, r.c + s.c, r.d + s.d, r.e + s.e, r.f + s.f, r.g + s.g, r.h + s.h⟩

/-- A message filled up to whole blocks. -/
def pad (message : List UInt8) : List UInt8 :=
  let n := message.length
  let zeros := (128 - (n + 17) % 128) % 128
  message ++ 0x80 :: List.replicate (zeros + 8) 0 ++ wordBytes (UInt64.ofNat (8 * n))

/-- The words after the first `n` blocks of some bytes. -/
def absorbBlocks : Nat → Registers → List UInt8 → Registers
  | 0, r, _ => r
  | n + 1, r, bytes => absorbBlocks n (absorb r (bytes.take 128)) (bytes.drop 128)

/-- The digest of a message. -/
def digest (message : List UInt8) : List UInt8 :=
  let bytes := pad message
  let r := absorbBlocks (bytes.length / 128) initial bytes
  [r.a, r.b, r.c, r.d, r.e, r.f].flatMap wordBytes

/-- Padding fills whole blocks. -/
theorem length_pad (message : List UInt8) : (pad message).length % 128 = 0 := by
  simp [pad, wordBytes]
  omega

end Rendezvous.Sha384
