import Mathlib.Data.List.Basic
import Mathlib.Algebra.Group.Nat.Basic

/-!
# `crypto/sha256`

`Sum256` as FIPS 180-4 defines it: pad the message to a multiple of 64 bytes,
then fold the compression function over the blocks, starting from the initial
hash value. Words are `UInt32`, so every addition is modulo `2^32` as in the
Go implementation.

`GenerateID` reads only the first four bytes of a digest and feeds the whole
digest back into `Sum256`; both uses go through `Digest`, which carries its
length, so `hash[:4]` never runs past the end.
-/

namespace Authd.Sha256

/-- The round constants `K`. -/
def roundConstants : List UInt32 := [
  0x428a2f98, 0x71374491, 0xb5c0fbcf, 0xe9b5dba5, 0x3956c25b, 0x59f111f1, 0x923f82a4, 0xab1c5ed5,
  0xd807aa98, 0x12835b01, 0x243185be, 0x550c7dc3, 0x72be5d74, 0x80deb1fe, 0x9bdc06a7, 0xc19bf174,
  0xe49b69c1, 0xefbe4786, 0x0fc19dc6, 0x240ca1cc, 0x2de92c6f, 0x4a7484aa, 0x5cb0a9dc, 0x76f988da,
  0x983e5152, 0xa831c66d, 0xb00327c8, 0xbf597fc7, 0xc6e00bf3, 0xd5a79147, 0x06ca6351, 0x14292967,
  0x27b70a85, 0x2e1b2138, 0x4d2c6dfc, 0x53380d13, 0x650a7354, 0x766a0abb, 0x81c2c92e, 0x92722c85,
  0xa2bfe8a1, 0xa81a664b, 0xc24b8b70, 0xc76c51a3, 0xd192e819, 0xd6990624, 0xf40e3585, 0x106aa070,
  0x19a4c116, 0x1e376c08, 0x2748774c, 0x34b0bcb5, 0x391c0cb3, 0x4ed8aa4a, 0x5b9cca4f, 0x682e6ff3,
  0x748f82ee, 0x78a5636f, 0x84c87814, 0x8cc70208, 0x90befffa, 0xa4506ceb, 0xbef9a3f7, 0xc67178f2]

/-- The eight working variables, also the intermediate hash value. -/
structure Hash where
  a : UInt32
  b : UInt32
  c : UInt32
  d : UInt32
  e : UInt32
  f : UInt32
  g : UInt32
  h : UInt32

/-- The initial hash value `H(0)`. -/
def initialHash : Hash :=
  ⟨0x6a09e667, 0xbb67ae85, 0x3c6ef372, 0xa54ff53a, 0x510e527f, 0x9b05688c, 0x1f83d9ab, 0x5be0cd19⟩

def rotr (x n : UInt32) : UInt32 := (x >>> n) ||| (x <<< (32 - n))

/-- Big-endian word of a list of bytes, as `binary.BigEndian.Uint32` reads it. -/
def bigEndianUint32 (b : List UInt8) : UInt32 :=
  b.foldl (fun acc x => (acc <<< 8) ||| x.toUInt32) 0

def putUint32 (w : UInt32) : List UInt8 :=
  [(w >>> 24).toUInt8, (w >>> 16).toUInt8, (w >>> 8).toUInt8, w.toUInt8]

/-- The sixteen big-endian words of a block. -/
def blockWords : List UInt8 → List UInt32
  | a :: b :: c :: d :: rest => bigEndianUint32 [a, b, c, d] :: blockWords rest
  | _ => []

/-- Extend the message schedule by `n` words. -/
def schedule : Nat → List UInt32 → List UInt32
  | 0, w => w
  | n + 1, w =>
    let i := w.length
    let w15 := w.getD (i - 15) 0
    let w2 := w.getD (i - 2) 0
    let s0 := rotr w15 7 ^^^ rotr w15 18 ^^^ (w15 >>> 3)
    let s1 := rotr w2 17 ^^^ rotr w2 19 ^^^ (w2 >>> 10)
    schedule n (w ++ [w.getD (i - 16) 0 + s0 + w.getD (i - 7) 0 + s1])

/-- One round, given the round constant and the schedule word. -/
def round (s : Hash) (kw : UInt32 × UInt32) : Hash :=
  let s1 := rotr s.e 6 ^^^ rotr s.e 11 ^^^ rotr s.e 25
  let ch := (s.e &&& s.f) ^^^ ((~~~ s.e) &&& s.g)
  let t1 := s.h + s1 + ch + kw.1 + kw.2
  let s0 := rotr s.a 2 ^^^ rotr s.a 13 ^^^ rotr s.a 22
  let maj := (s.a &&& s.b) ^^^ (s.a &&& s.c) ^^^ (s.b &&& s.c)
  ⟨t1 + s0 + maj, s.a, s.b, s.c, s.d + t1, s.e, s.f, s.g⟩

/-- The compression function on one 64-byte block. -/
def compress (hv : Hash) (block : List UInt8) : Hash :=
  let s := (roundConstants.zip (schedule 48 (blockWords block))).foldl round hv
  ⟨hv.a + s.a, hv.b + s.b, hv.c + s.c, hv.d + s.d, hv.e + s.e, hv.f + s.f, hv.g + s.g,
    hv.h + s.h⟩

/-- The message, `0x80`, zeros up to 56 modulo 64, and the length in bits on 8 bytes. -/
def pad (m : List UInt8) : List UInt8 :=
  m ++ [0x80] ++ List.replicate ((55 + 64 - m.length % 64) % 64) 0 ++
    (List.range 8).reverse.map fun i => UInt8.ofNat (m.length * 8 / 2 ^ (8 * i))

/-- The 64-byte blocks of a padded message; `fuel` bounds their number. -/
def blocks : Nat → List UInt8 → List (List UInt8)
  | 0, _ => []
  | fuel + 1, m => if m = [] then [] else m.take 64 :: blocks fuel (m.drop 64)

/-- A digest, `[Size]byte` with `Size = 32`. -/
structure Digest where
  bytes : List UInt8
  length_bytes : bytes.length = 32

def Hash.toDigest (hv : Hash) : Digest :=
  ⟨[hv.a, hv.b, hv.c, hv.d, hv.e, hv.f, hv.g, hv.h].flatMap putUint32, by simp [putUint32]⟩

/-- `sha256.Sum256`. -/
def sum256 (m : List UInt8) : Digest :=
  ((blocks (pad m).length (pad m)).foldl compress initialHash).toDigest

/-- `binary.BigEndian.Uint32(hash[:4])`. -/
def Digest.prefixUint32 (d : Digest) : UInt32 :=
  bigEndianUint32 (d.bytes.take 4)

end Authd.Sha256
