import Mathlib.Data.List.Basic

/-!
# `unicode/utf8`

A Go string is its bytes. `for _, r := range s`, `strings.Map` and the other
rune loops of the standard library read it with `utf8.DecodeRune`, which turns
every byte that does not start a well-formed sequence into `RuneError` of
width 1, and write runes back with `utf8.EncodeRune`.

The masks of the Go source (`p0 & mask2`, `b & maskx`, `t2 | byte(r >> 6)`)
are written here as the offsets and quotients they amount to on the byte
ranges the tables accept, so that the round trip is linear arithmetic.

Results:
* `decodeRune_encodeRune`: decoding the encoding of a rune gives the rune
  back, with the width of its encoding, whatever bytes follow.
-/

namespace Authd.Utf8

/-- `utf8.RuneError`. -/
def runeError : Char := '�'

/-- The length of the sequence a leading byte `p0 ≥ 0x80` starts and the range
its second byte must lie in: Go's `first` and `acceptRanges` tables. `none` is
a byte that starts no sequence (a continuation byte, `0xC0`, `0xC1`, or
`0xF5` and above). -/
def leading (p0 : Nat) : Option (Nat × Nat × Nat) :=
  if p0 < 0xC2 then none
  else if p0 < 0xE0 then some (2, 0x80, 0xBF)
  else if p0 = 0xE0 then some (3, 0xA0, 0xBF)
  else if p0 = 0xED then some (3, 0x80, 0x9F)
  else if p0 < 0xF0 then some (3, 0x80, 0xBF)
  else if p0 = 0xF0 then some (4, 0x90, 0xBF)
  else if p0 < 0xF4 then some (4, 0x80, 0xBF)
  else if p0 = 0xF4 then some (4, 0x80, 0x8F)
  else none

/-- `utf8.DecodeRune`: the first rune of `p` and its width in bytes. -/
def decodeRune : List UInt8 → Char × Nat
  | [] => (runeError, 0)
  | p0 :: rest =>
    if p0.toNat < 0x80 then (Char.ofNat p0.toNat, 1) else
    match leading p0.toNat, rest with
    | some (sz, lo, hi), b1 :: rest =>
      if b1.toNat < lo ∨ hi < b1.toNat then (runeError, 1)
      else if sz ≤ 2 then (Char.ofNat ((p0.toNat - 0xC0) * 64 + (b1.toNat - 0x80)), 2)
      else match rest with
        | b2 :: rest =>
          if b2.toNat < 0x80 ∨ 0xBF < b2.toNat then (runeError, 1)
          else if sz ≤ 3 then
            (Char.ofNat ((p0.toNat - 0xE0) * 4096 + (b1.toNat - 0x80) * 64 + (b2.toNat - 0x80)), 3)
          else match rest with
            | b3 :: _ =>
              if b3.toNat < 0x80 ∨ 0xBF < b3.toNat then (runeError, 1)
              else (Char.ofNat ((p0.toNat - 0xF0) * 262144 + (b1.toNat - 0x80) * 4096 +
                (b2.toNat - 0x80) * 64 + (b3.toNat - 0x80)), 4)
            | [] => (runeError, 1)
        | [] => (runeError, 1)
    | _, _ => (runeError, 1)

/-- `utf8.EncodeRune` on a valid rune (a `Char` is never a surrogate). -/
def encodeRune (c : Char) : List UInt8 :=
  let r := c.toNat
  if r < 0x80 then [UInt8.ofNat r]
  else if r < 0x800 then [UInt8.ofNat (0xC0 + r / 64), UInt8.ofNat (0x80 + r % 64)]
  else if r < 0x10000 then
    [UInt8.ofNat (0xE0 + r / 4096), UInt8.ofNat (0x80 + r / 64 % 64), UInt8.ofNat (0x80 + r % 64)]
  else
    [UInt8.ofNat (0xF0 + r / 262144), UInt8.ofNat (0x80 + r / 4096 % 64),
      UInt8.ofNat (0x80 + r / 64 % 64), UInt8.ofNat (0x80 + r % 64)]

/-- Decode at most `fuel` runes. -/
def decodeRunesFuel : Nat → List UInt8 → List Char
  | 0, _ => []
  | _ + 1, [] => []
  | fuel + 1, p@(_ :: _) => (decodeRune p).1 :: decodeRunesFuel fuel (p.drop (decodeRune p).2)

/-- The runes `for _, r := range s` visits: every rune takes at least one byte,
so `s.length` runes are enough. -/
def decodeRunes (s : List UInt8) : List Char := decodeRunesFuel s.length s

/-- The bytes of a rune list, as `strings.Builder.WriteRune` appends them. -/
def encodeRunes (rs : List Char) : List UInt8 := rs.flatMap encodeRune

theorem encodeRune_ne_nil (c : Char) : encodeRune c ≠ [] := by
  dsimp only [encodeRune]; split_ifs <;> simp

theorem toNat_ofNat_of_lt {n : Nat} (h : n < 256) : (UInt8.ofNat n).toNat = n :=
  UInt8.toNat_ofNat_of_lt h

/-- A `Char` is a Unicode scalar value. -/
theorem toNat_valid (c : Char) : c.toNat < 0xD800 ∨ (0xDFFF < c.toNat ∧ c.toNat < 0x110000) :=
  c.valid

theorem ofNat_eq_of_toNat {n : Nat} {c : Char} (h : n = c.toNat) : Char.ofNat n = c := by
  rw [h, Char.ofNat_toNat]

/-- `Char.ofNat` keeps a Unicode scalar value. -/
theorem charToNat_ofNat {n : Nat} (valid : n < 0xD800 ∨ (0xDFFF < n ∧ n < 0x110000)) :
    (Char.ofNat n).toNat = n := by
  have scalar : n.isValidChar := by unfold Nat.isValidChar; omega
  simp only [Char.ofNat, scalar, ↓reduceDIte, Char.ofNatAux]
  rfl

/-- A well-formed two-byte sequence. -/
theorem decodeRune_two {b0 b1 : UInt8} (rest : List UInt8)
    (lead : 0xC2 ≤ b0.toNat ∧ b0.toNat < 0xE0) (cont : 0x80 ≤ b1.toNat ∧ b1.toNat ≤ 0xBF) :
    decodeRune (b0 :: b1 :: rest) =
      (Char.ofNat ((b0.toNat - 0xC0) * 64 + (b1.toNat - 0x80)), 2) := by
  simp (disch := omega) only [decodeRune, leading, if_neg, if_pos]

/-- A well-formed three-byte sequence: the second byte lies in the accept range of the
first, which is narrower after `0xE0` (no overlong form) and `0xED` (no surrogate). -/
theorem decodeRune_three {b0 b1 b2 : UInt8} (rest : List UInt8)
    (lead : 0xE0 ≤ b0.toNat ∧ b0.toNat < 0xF0)
    (cont1 : 0x80 ≤ b1.toNat ∧ b1.toNat ≤ 0xBF ∧ (b0.toNat = 0xE0 → 0xA0 ≤ b1.toNat) ∧
      (b0.toNat = 0xED → b1.toNat ≤ 0x9F))
    (cont2 : 0x80 ≤ b2.toNat ∧ b2.toNat ≤ 0xBF) :
    decodeRune (b0 :: b1 :: b2 :: rest) =
      (Char.ofNat ((b0.toNat - 0xE0) * 4096 + (b1.toNat - 0x80) * 64 + (b2.toNat - 0x80)), 3) := by
  rcases (by omega : b0.toNat = 0xE0 ∨ b0.toNat = 0xED ∨ (b0.toNat ≠ 0xE0 ∧ b0.toNat ≠ 0xED))
    with first | first | first <;>
  simp (disch := omega) only [decodeRune, leading, if_neg, if_pos]

/-- A well-formed four-byte sequence: the second byte's accept range is narrower after
`0xF0` (no overlong form) and `0xF4` (nothing above `MaxRune`). -/
theorem decodeRune_four {b0 b1 b2 b3 : UInt8} (rest : List UInt8)
    (lead : 0xF0 ≤ b0.toNat ∧ b0.toNat ≤ 0xF4)
    (cont1 : 0x80 ≤ b1.toNat ∧ b1.toNat ≤ 0xBF ∧ (b0.toNat = 0xF0 → 0x90 ≤ b1.toNat) ∧
      (b0.toNat = 0xF4 → b1.toNat ≤ 0x8F))
    (cont2 : 0x80 ≤ b2.toNat ∧ b2.toNat ≤ 0xBF) (cont3 : 0x80 ≤ b3.toNat ∧ b3.toNat ≤ 0xBF) :
    decodeRune (b0 :: b1 :: b2 :: b3 :: rest) =
      (Char.ofNat ((b0.toNat - 0xF0) * 262144 + (b1.toNat - 0x80) * 4096 +
        (b2.toNat - 0x80) * 64 + (b3.toNat - 0x80)), 4) := by
  rcases (by omega : b0.toNat = 0xF0 ∨ b0.toNat = 0xF4 ∨ (b0.toNat ≠ 0xF0 ∧ b0.toNat ≠ 0xF4))
    with first | first | first <;>
  simp (disch := omega) only [decodeRune, leading, if_neg, if_pos]

/-- Decoding the encoding of `c` gives `c` back: a `Char` is neither an overlong form,
nor a surrogate, nor above `MaxRune`, so its bytes lie in the accept ranges. -/
theorem decodeRune_encodeRune (c : Char) (rest : List UInt8) :
    decodeRune (encodeRune c ++ rest) = (c, (encodeRune c).length) := by
  have valid := toNat_valid c
  dsimp only [encodeRune]
  split_ifs with one two three <;> simp only [List.cons_append, List.nil_append]
  · simp [decodeRune, toNat_ofNat_of_lt (show c.toNat < 256 by omega), one]
  · rw [decodeRune_two rest
      (by rw [toNat_ofNat_of_lt (by omega)]; omega) (by rw [toNat_ofNat_of_lt (by omega)]; omega),
      toNat_ofNat_of_lt (by omega), toNat_ofNat_of_lt (by omega),
      ofNat_eq_of_toNat (c := c) (by omega)]
    rfl
  · rw [decodeRune_three rest
      (by rw [toNat_ofNat_of_lt (by omega)]; omega)
      (by simp only [toNat_ofNat_of_lt (show 0xE0 + c.toNat / 4096 < 256 by omega),
            toNat_ofNat_of_lt (show 0x80 + c.toNat / 64 % 64 < 256 by omega)]; omega)
      (by rw [toNat_ofNat_of_lt (by omega)]; omega),
      toNat_ofNat_of_lt (by omega), toNat_ofNat_of_lt (by omega), toNat_ofNat_of_lt (by omega),
      ofNat_eq_of_toNat (c := c) (by omega)]
    rfl
  · rw [decodeRune_four rest
      (by rw [toNat_ofNat_of_lt (by omega)]; omega)
      (by simp only [toNat_ofNat_of_lt (show 0xF0 + c.toNat / 262144 < 256 by omega),
            toNat_ofNat_of_lt (show 0x80 + c.toNat / 4096 % 64 < 256 by omega)]; omega)
      (by rw [toNat_ofNat_of_lt (by omega)]; omega) (by rw [toNat_ofNat_of_lt (by omega)]; omega),
      toNat_ofNat_of_lt (by omega), toNat_ofNat_of_lt (by omega), toNat_ofNat_of_lt (by omega),
      toNat_ofNat_of_lt (by omega), ofNat_eq_of_toNat (c := c) (by omega)]
    rfl

/-! ## Valid UTF-8 -/

/-- Bytes that are the encoding of some runes: what `utf8.Valid` accepts. -/
def Valid (s : List UInt8) : Prop := ∃ rs, encodeRunes rs = s

theorem Valid.append {s t : List UInt8} (hs : Valid s) (ht : Valid t) : Valid (s ++ t) := by
  obtain ⟨rs, rfl⟩ := hs
  obtain ⟨ts, rfl⟩ := ht
  exact ⟨rs ++ ts, by simp [encodeRunes]⟩

theorem valid_encodeRune (c : Char) : Valid (encodeRune c) := ⟨[c], by simp [encodeRunes]⟩

/-- A property of both branches holds of the `if`: the case split on one condition of
a chain of `if`s, without `split_ifs` simplifying the others. -/
theorem ite_of {α : Type} {P : α → Prop} {c : Prop} [Decidable c] {a b : α} (ha : c → P a)
    (hb : ¬ c → P b) : P (if c then a else b) := by
  by_cases h : c
  · rw [if_pos h]; exact ha h
  · rw [if_neg h]; exact hb h

theorem Valid.ite {c : Prop} [Decidable c] {s t : List UInt8} (hs : c → Valid s)
    (ht : ¬ c → Valid t) : Valid (if c then s else t) :=
  ite_of hs ht

/-- An ASCII rune is its own byte. -/
theorem encodeRune_ascii {c : Char} (ascii : c.toNat < 0x80) :
    encodeRune c = [UInt8.ofNat c.toNat] := by
  simp [encodeRune, ascii]

/-- Every rune above ASCII takes two bytes or more, the first of them not ASCII. -/
theorem encodeRune_wide {c : Char} (wide : 0x80 ≤ c.toNat) :
    ∃ b tail, encodeRune c = b :: tail ∧ 0x80 ≤ b.toNat ∧ tail ≠ [] := by
  have valid := toNat_valid c
  dsimp only [encodeRune]
  split_ifs with one two three
  · omega
  all_goals exact ⟨_, _, rfl, by rw [toNat_ofNat_of_lt (by omega)]; omega, by simp⟩

/-- An ASCII byte is the encoding of the rune of its value. -/
theorem encodeRune_ofNat_byte {b : UInt8} (ascii : b.toNat < 0x80) :
    encodeRune (Char.ofNat b.toNat) = [b] := by
  have code : (Char.ofNat b.toNat).toNat = b.toNat := charToNat_ofNat (by omega)
  rw [encodeRune_ascii (by omega), code, UInt8.toNat.inj (toNat_ofNat_of_lt (by omega))]

/-- ASCII bytes are valid, each byte a rune. -/
theorem valid_of_ascii {s : List UInt8} (ascii : ∀ b ∈ s, b.toNat < 0x80) : Valid s := by
  induction s with
  | nil => exact ⟨[], rfl⟩
  | cons b rest ih =>
    have byte := encodeRune_ofNat_byte (ascii b (List.mem_cons_self b rest))
    exact (show Valid [b] from ⟨[Char.ofNat b.toNat], by simp [encodeRunes, byte]⟩).append
      (ih fun x member => ascii x (List.mem_cons_of_mem b member))

/-! ## Go string literals

The models write a Go string literal as the bytes of a Lean string. `ByteArray.toList`
is defined by well-founded recursion, so `decide` cannot run it; these lemmas turn it
into the list it reads. -/

theorem byteArray_toList_loop (bs : ByteArray) (i : Nat) (r : List UInt8) :
    ByteArray.toList.loop bs i r = r.reverse ++ bs.data.toList.drop i := by
  induction i, r using ByteArray.toList.loop.induct bs with
  | case1 i r lt ih =>
    rw [ByteArray.toList.loop, if_pos lt, ih, List.reverse_cons, List.append_assoc]
    congr 1
    have inData : i < bs.data.size := lt
    rw [List.drop_eq_getElem_cons (show i < bs.data.toList.length by simpa using inData)]
    simp [ByteArray.get!, Array.get!, Array.getD, inData]
  | case2 i r ge =>
    rw [ByteArray.toList.loop, if_neg ge,
      List.drop_eq_nil_of_le (by simpa [ByteArray.size] using ge), List.append_nil]

theorem toList_toUTF8 (s : String) : s.toUTF8.toList = s.data.flatMap String.utf8EncodeChar := by
  rw [ByteArray.toList, byteArray_toList_loop]
  rfl

end Authd.Utf8
