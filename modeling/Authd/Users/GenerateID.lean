import Mathlib.Algebra.Group.Int
import Authd.Go.Sha256
import Authd.Go.Unicode

/-!
# `GenerateID`

The UID or GID of a name: lower-case the name, hash it with SHA-256, read the
first four bytes of the digest big-endian and reduce them modulo `MaxInt32`;
while the result is below `65536`, hash the digest again.

The loop ends when a digest in the chain reduces to `65536` or more, which
depends on SHA-256 alone; `generateID fuel` runs at most `fuel` rounds of it and
is `none` when that is not enough. More fuel never changes a value already
reached (`rehash_add`), so `generateID fuel str = some id` says that
`GenerateID(str)` returns `id`.

The name is lower-cased with `strings.ToLower`, which maps each rune and does not fold
case: a rune whose upper case lower-cases to another rune gets another ID once the name
is upper-cased, against the doc comment's "ignoring case".

Results:
* `generateID_mem_range`: whenever `GenerateID` returns, the ID lies in
  `[65536, 2^31 - 2]`;
* `generateID_dotlessI`: `GenerateID("ı")` and `GenerateID(strings.ToUpper("ı"))`, which
  is `GenerateID("I")`, are two different IDs.
-/

namespace Authd.Users

open Sha256

/-- `minID`: everything below is reserved or handed out by `adduser(8)`. -/
def minID : UInt32 := 65536

/-- `maxID`, `math.MaxInt32`. -/
def maxID : UInt32 := 2147483647

/-- The loop of `GenerateID` from `hash`, for at most `fuel` reductions. -/
def rehash : Nat → Digest → Option UInt32
  | 0, _ => none
  | fuel + 1, hash =>
    let number := hash.prefixUint32 % maxID
    if number < minID then rehash fuel (sum256 hash.bytes) else some number

/-- `GenerateID`, run for at most `fuel` rounds of its loop. -/
def generateID (fuel : Nat) (str : List UInt8) : Option Int :=
  (rehash fuel (sum256 (Strings.toLower str))).map fun number => (number.toNat : Int)

/-- The loop invariant: a value the loop exits with is at least `minID` and,
being reduced modulo `maxID`, below it. -/
theorem rehash_mem_range {fuel : Nat} {hash : Digest} {number : UInt32}
    (h : rehash fuel hash = some number) : 65536 ≤ number.toNat ∧ number.toNat < 2147483647 := by
  induction fuel generalizing hash with
  | zero => cases h
  | succ fuel ih =>
    simp only [rehash] at h
    split_ifs at h with small
    · exact ih h
    · cases h
      have reduced := UInt32.toNat_mod_lt hash.prefixUint32 (m := 2147483647) (by decide)
      exact ⟨by simpa [minID, UInt32.lt_def, BitVec.lt_def] using small, reduced⟩

theorem rehash_add {fuel k : Nat} {hash : Digest} {number : UInt32}
    (h : rehash fuel hash = some number) : rehash (fuel + k) hash = some number := by
  induction fuel generalizing hash with
  | zero => cases h
  | succ fuel ih =>
    rw [Nat.add_right_comm]
    simp only [rehash] at h ⊢
    split_ifs at h ⊢
    · exact ih h
    · exact h

theorem generateID_add {fuel k : Nat} {str : List UInt8} {id : Int}
    (h : generateID fuel str = some id) : generateID (fuel + k) str = some id := by
  obtain ⟨number, found, rfl⟩ := Option.map_eq_some'.mp h
  simp [generateID, rehash_add found]

/-- Every ID `GenerateID` returns is in `[65536, MaxInt32 - 1]`: never `0`, never
in the system or `adduser` range, never negative as an `int32`. -/
theorem generateID_mem_range {fuel : Nat} {str : List UInt8} {id : Int}
    (h : generateID fuel str = some id) : 65536 ≤ id ∧ id ≤ 2 ^ 31 - 2 := by
  obtain ⟨number, found, rfl⟩ := Option.map_eq_some'.mp h
  have := rehash_mem_range found
  omega

/-- The bytes of `"alice"`. -/
def alice : List UInt8 := [0x61, 0x6C, 0x69, 0x63, 0x65]

set_option maxRecDepth 100000 in
theorem generateID_alice_mem_range :
    generateID 1 alice = some 735577801 ∧ 65536 ≤ (735577801 : Int) ∧
      (735577801 : Int) ≤ 2 ^ 31 - 2 :=
  have found : generateID 1 alice = some 735577801 := by decide
  ⟨found, generateID_mem_range found⟩

/-- The bytes of `"ı"`, U+0131. -/
def dotlessI : List UInt8 := [0xC4, 0xB1]

set_option maxRecDepth 100000 in
/-- `strings.ToUpper("ı")` is `"I"`: `unicode.ToUpper` maps U+0131 to `I`, and
`unicode.ToLower` keeps U+0131 but maps `I` to `i`. So `GenerateID` hashes `"ı"` for the
one and `"i"` for the other: both calls return, with different IDs. -/
theorem generateID_dotlessI :
    Strings.toUpper dotlessI = [0x49] ∧ generateID 1 dotlessI = some 1414250920 ∧
      generateID 1 (Strings.toUpper dotlessI) = some 1585257331 := by
  decide

end Authd.Users
