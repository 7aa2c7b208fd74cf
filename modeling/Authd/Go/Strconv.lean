import Mathlib.Algebra.Group.Nat.Basic
import Authd.Go.Utf8

/-!
# `strconv.Quote`

`fmt.Sprintf("%q", s)` on a string is `strconv.Quote(s)`: a double-quoted Go literal
for `s`. A byte that does not start a well-formed sequence becomes `\x` and two hex
digits; a rune is kept when `strconv.IsPrint` holds and escaped otherwise.

`IsPrint` decides the runes up to U+00FF itself and looks the others up in tables
generated from Unicode. Those tables are a parameter, `isPrintTable`, and every result
holds for all of them.

Results:
* `quote_valid`: the literal is valid UTF-8, whatever bytes it quotes.
-/

namespace Authd.Strconv

open Utf8

/-- `lowerhex[n]`, for `n < 16`. -/
def lowerhex (n : Nat) : UInt8 := UInt8.ofNat (if n < 10 then 0x30 + n else 0x61 + (n - 10))

/-- `IsPrint`, the tables for runes above U+00FF given by `isPrintTable`. -/
def isPrint (isPrintTable : Char → Bool) (r : Char) : Bool :=
  if r.toNat ≤ 0xFF then
    (0x20 ≤ r.toNat && r.toNat ≤ 0x7E) || (0xA1 ≤ r.toNat && r.toNat != 0xAD)
  else isPrintTable r

/-- `appendEscapedRune` with quote `"` and neither `ASCIIonly` nor `graphicOnly`. A
`Char` is always a valid rune, so its `!utf8.ValidRune(r)` case does not arise. -/
def appendEscapedRune (isPrintTable : Char → Bool) (r : Char) : List UInt8 :=
  let n := r.toNat
  if n = 0x22 ∨ n = 0x5C then [0x5C, UInt8.ofNat n]
  else if isPrint isPrintTable r then encodeRune r
  else if n = 0x07 then [0x5C, 0x61]
  else if n = 0x08 then [0x5C, 0x62]
  else if n = 0x0C then [0x5C, 0x66]
  else if n = 0x0A then [0x5C, 0x6E]
  else if n = 0x0D then [0x5C, 0x72]
  else if n = 0x09 then [0x5C, 0x74]
  else if n = 0x0B then [0x5C, 0x76]
  else if n < 0x20 ∨ n = 0x7F then [0x5C, 0x78, lowerhex (n / 16), lowerhex (n % 16)]
  else if n < 0x10000 then 0x5C :: 0x75 :: [12, 8, 4, 0].map fun s => lowerhex (n / 2 ^ s % 16)
  else 0x5C :: 0x55 :: [28, 24, 20, 16, 12, 8, 4, 0].map fun s => lowerhex (n / 2 ^ s % 16)

/-- The loop of `appendQuotedWith` over `s`, at most `fuel` rounds. -/
def quoteLoop (isPrintTable : Char → Bool) : Nat → List UInt8 → List UInt8
  | 0, _ => []
  | _ + 1, [] => []
  | fuel + 1, s@(b :: _) =>
    let unit := if b.toNat < 0x80 then (Char.ofNat b.toNat, 1) else decodeRune s
    (if unit.2 = 1 ∧ unit.1 = runeError then
      [0x5C, 0x78, lowerhex (b.toNat / 16), lowerhex (b.toNat % 16)]
    else appendEscapedRune isPrintTable unit.1) ++ quoteLoop isPrintTable fuel (s.drop unit.2)

/-- `strconv.Quote`: every round takes a byte or more, so `s.length` rounds are enough. -/
def quote (isPrintTable : Char → Bool) (s : List UInt8) : List UInt8 :=
  0x22 :: quoteLoop isPrintTable s.length s ++ [0x22]

theorem lowerhex_ascii {n : Nat} (digit : n < 16) : (lowerhex n).toNat < 0x80 := by
  unfold lowerhex
  split_ifs <;> rw [toNat_ofNat_of_lt (by omega)] <;> omega

/-- An escape is ASCII; a rune kept as it is, its encoding. -/
theorem appendEscapedRune_valid (isPrintTable : Char → Bool) (r : Char) :
    Valid (appendEscapedRune isPrintTable r) := by
  refine Valid.ite (fun quoted => ?_) fun _ => Valid.ite (fun _ => valid_encodeRune r) fun _ => ?_
  · rcases quoted with code | code <;> rw [code] <;> exact valid_of_ascii (by decide)
  repeat' refine Valid.ite (fun _ => ?_) fun _ => ?_
  all_goals
    refine valid_of_ascii ?_
    simp only [List.forall_mem_cons, List.forall_mem_map, List.not_mem_nil, false_implies,
      implies_true, and_true]
    repeat' apply And.intro
    all_goals first
      | decide
      | exact lowerhex_ascii (by omega)

/-- The literal `strconv.Quote` builds is valid UTF-8, whatever bytes it quotes. -/
theorem quoteLoop_valid (isPrintTable : Char → Bool) (fuel : Nat) (s : List UInt8) :
    Valid (quoteLoop isPrintTable fuel s) := by
  induction fuel generalizing s with
  | zero => exact ⟨[], rfl⟩
  | succ fuel ih =>
    rcases s with _ | ⟨b, rest⟩
    · exact ⟨[], rfl⟩
    have byte : b.toNat < 256 := b.toNat_lt_size
    refine Valid.append (Valid.ite (fun _ => valid_of_ascii ?_)
      fun _ => appendEscapedRune_valid isPrintTable _) (ih _)
    simp only [List.forall_mem_cons, List.not_mem_nil, false_implies, implies_true, and_true]
    exact ⟨by decide, by decide, lowerhex_ascii (by omega), lowerhex_ascii (by omega)⟩

theorem quote_valid (isPrintTable : Char → Bool) (s : List UInt8) :
    Valid (quote isPrintTable s) :=
  (valid_of_ascii (s := [0x22]) (by decide)).append
    ((quoteLoop_valid isPrintTable s.length s).append (valid_of_ascii (by decide)))

end Authd.Strconv
