import Authd.Go.Strconv

/-!
# `encoding/json` on strings

`json.Marshal` of a Go string writes a JSON string literal: `appendString` with
`escapeHTML`. It escapes `"` and `\`, the control bytes, `<`, `>` and `&`, U+2028 and
U+2029, and writes the escape `\ufffd` for every byte that does not start a well-formed
sequence.

`json.Unmarshal` reads a literal back into a string: the scanner refuses raw control
bytes and malformed escapes, and `unquote` resolves the escapes, pairs surrogates and
turns every malformed byte into U+FFFD. Into a `map[string]string` it reads an object
whose values are strings.

Results:
* `readString_marshalString`: the literal `json.Marshal` writes for a valid UTF-8
  string reads back as that string;
* `readObject_marshalString`: so does the one member of an object built around it.
-/

namespace Authd.Json

open Utf8 Strconv

/-- `htmlSafeSet[b]` for an ASCII byte. -/
def htmlSafe (b : UInt8) : Bool :=
  0x20 ≤ b.toNat && b != 0x22 && b != 0x5C && b != 0x3C && b != 0x3E && b != 0x26

/-- What `appendString` writes for an ASCII byte. `encoding/json`'s `hex` holds the digits
of `lowerhex`. -/
def escapeASCII (b : UInt8) : List UInt8 :=
  if htmlSafe b then [b]
  else if b = 0x5C ∨ b = 0x22 then [0x5C, b]
  else if b = 0x08 then [0x5C, 0x62]
  else if b = 0x0C then [0x5C, 0x66]
  else if b = 0x0A then [0x5C, 0x6E]
  else if b = 0x0D then [0x5C, 0x72]
  else if b = 0x09 then [0x5C, 0x74]
  else [0x5C, 0x75, 0x30, 0x30, lowerhex (b.toNat / 16), lowerhex (b.toNat % 16)]

/-- The escape `\ufffd`. -/
def replacementEscape : List UInt8 := [0x5C, 0x75, 0x66, 0x66, 0x66, 0x64]

/-- The loop of `appendString` over `src`, at most `fuel` rounds. Go copies the bytes it
keeps a run at a time (`src[start:i]`); copying them a rune at a time writes the same
bytes. -/
def appendStringLoop : Nat → List UInt8 → List UInt8
  | 0, _ => []
  | _ + 1, [] => []
  | fuel + 1, src@(b :: rest) =>
    if b.toNat < 0x80 then escapeASCII b ++ appendStringLoop fuel rest else
    let unit := decodeRune src
    (if unit.1 = runeError ∧ unit.2 = 1 then replacementEscape
      else if unit.1.toNat = 0x2028 ∨ unit.1.toNat = 0x2029 then
        [0x5C, 0x75, 0x32, 0x30, 0x32, lowerhex (unit.1.toNat % 16)]
      else src.take unit.2) ++ appendStringLoop fuel (src.drop unit.2)

/-- `json.Marshal` of a string; it never fails. -/
def marshalString (s : List UInt8) : List UInt8 :=
  0x22 :: appendStringLoop s.length s ++ [0x22]

/-- The value of a hex digit, as `getu4` reads it. -/
def hexValue (b : UInt8) : Option Nat :=
  if 0x30 ≤ b.toNat ∧ b.toNat ≤ 0x39 then some (b.toNat - 0x30)
  else if 0x61 ≤ b.toNat ∧ b.toNat ≤ 0x66 then some (b.toNat - 0x61 + 10)
  else if 0x41 ≤ b.toNat ∧ b.toNat ≤ 0x46 then some (b.toNat - 0x41 + 10)
  else none

/-- `getu4`: the value of the four hex digits after `\u`, and what follows them. -/
def getu4 : List UInt8 → Option (Nat × List UInt8)
  | a :: b :: c :: d :: rest =>
    (hexValue a).bind fun a => (hexValue b).bind fun b => (hexValue c).bind fun c =>
      (hexValue d).map fun d => (((a * 16 + b) * 16 + c) * 16 + d, rest)
  | _ => none

/-- The `\u` escape of `unquote`, after its `u`: a rune outside the surrogates stands for
itself; a surrogate takes the next `\u` along when the two are a pair
(`utf16.DecodeRune`), and stands for U+FFFD when they are not. -/
def unescapeU (rest : List UInt8) : Option (List UInt8 × List UInt8) :=
  (getu4 rest).map fun (r, rest) =>
    if r < 0xD800 ∨ 0xE000 ≤ r then (encodeRune (Char.ofNat r), rest) else
    match rest with
    | 0x5C :: 0x75 :: more =>
      match getu4 more with
      | some (r2, more) =>
        if r < 0xDC00 ∧ 0xDC00 ≤ r2 ∧ r2 < 0xE000 then
          (encodeRune (Char.ofNat ((r - 0xD800) * 0x400 + (r2 - 0xDC00) + 0x10000)), more)
        else (encodeRune runeError, rest)
      | none => (encodeRune runeError, rest)
    | _ => (encodeRune runeError, rest)

/-- One escape of a string literal, after its backslash: the bytes it stands for and what
follows. The scanner takes no other escape. -/
def unescape : List UInt8 → Option (List UInt8 × List UInt8)
  | [] => none
  | e :: rest =>
    match e.toNat with
    | 0x22 => some ([0x22], rest)
    | 0x5C => some ([0x5C], rest)
    | 0x2F => some ([0x2F], rest)
    | 0x62 => some ([0x08], rest)
    | 0x66 => some ([0x0C], rest)
    | 0x6E => some ([0x0A], rest)
    | 0x72 => some ([0x0D], rest)
    | 0x74 => some ([0x09], rest)
    | 0x75 => unescapeU rest
    | _ => none

/-- A string literal after its opening quote, at most `fuel` rounds: the bytes it stands
for and what follows its closing quote. -/
def readStringLoop : Nat → List UInt8 → Option (List UInt8 × List UInt8)
  | 0, _ => none
  | _ + 1, [] => none
  | fuel + 1, s@(b :: rest) =>
    if b = 0x22 then some ([], rest)
    else if b = 0x5C then
      (unescape rest).bind fun (bytes, rest) =>
        (readStringLoop fuel rest).map (Prod.map (bytes ++ ·) id)
    else if b.toNat < 0x20 then none
    else if b.toNat < 0x80 then (readStringLoop fuel rest).map (Prod.map (b :: ·) id)
    else
      let unit := decodeRune s
      (readStringLoop fuel (s.drop unit.2)).map (Prod.map (encodeRune unit.1 ++ ·) id)

/-- A JSON string literal, read into a Go string, and what follows it. Every round takes a
byte or more, so as many rounds as bytes are enough. -/
def readString : List UInt8 → Option (List UInt8 × List UInt8)
  | [] => none
  | b :: rest => if b = 0x22 then readStringLoop rest.length rest else none

/-- JSON whitespace. -/
def isSpace (b : UInt8) : Bool := b = 0x20 || b = 0x09 || b = 0x0A || b = 0x0D

/-- The members of an object after its `{`, each a string key and a string value, at most
`fuel` of them, up to the `}` that ends the input. -/
def readMembers : Nat → List UInt8 → Option (List (List UInt8 × List UInt8))
  | 0, _ => none
  | fuel + 1, s =>
    (readString (s.dropWhile isSpace)).bind fun (key, s) =>
      let s := s.dropWhile isSpace
      if s.head? ≠ some 0x3A then none else
      (readString ((s.drop 1).dropWhile isSpace)).bind fun (value, s) =>
        let s := s.dropWhile isSpace
        if s.head? = some 0x2C then (readMembers fuel (s.drop 1)).map ((key, value) :: ·)
        else if s.head? = some 0x7D ∧ (s.drop 1).dropWhile isSpace = [] then some [(key, value)]
        else none

/-- A JSON object whose values are strings, as `json.Unmarshal` into a `map[string]string`
reads it: its members in order. -/
def readObject (s : List UInt8) : Option (List (List UInt8 × List UInt8)) :=
  let s := s.dropWhile isSpace
  if s.head? ≠ some 0x7B then none else
  let body := s.drop 1
  let t := body.dropWhile isSpace
  if t.head? = some 0x7D then (if (t.drop 1).dropWhile isSpace = [] then some [] else none)
  else readMembers body.length body

/-! ## Reading back what `json.Marshal` wrote -/

theorem hexValue_lowerhex : ∀ d < 16, hexValue (lowerhex d) = some d := by decide

theorem readStringLoop_plain {b : UInt8} (printable : 0x20 ≤ b.toNat ∧ b.toNat < 0x80)
    (quote : b ≠ 0x22) (backslash : b ≠ 0x5C) (fuel : Nat) (more : List UInt8) :
    readStringLoop (fuel + 1) (b :: more) =
      (readStringLoop fuel more).map (Prod.map (b :: ·) id) := by
  simp only [readStringLoop, if_neg quote, if_neg backslash,
    if_neg (show ¬ b.toNat < 0x20 by omega), if_pos printable.2]

theorem readStringLoop_escape {e : UInt8} {more bytes rest : List UInt8}
    (escape : unescape (e :: more) = some (bytes, rest)) (fuel : Nat) :
    readStringLoop (fuel + 1) (0x5C :: e :: more) =
      (readStringLoop fuel rest).map (Prod.map (bytes ++ ·) id) := by
  simp [readStringLoop, escape]

/-- A `\u` escape of a rune below the surrogates. -/
theorem unescape_u {h1 h2 h3 h4 : UInt8} {d1 d2 d3 d4 : Nat} (v1 : hexValue h1 = some d1)
    (v2 : hexValue h2 = some d2) (v3 : hexValue h3 = some d3) (v4 : hexValue h4 = some d4)
    (scalar : ((d1 * 16 + d2) * 16 + d3) * 16 + d4 < 0xD800) (more : List UInt8) :
    unescape (0x75 :: h1 :: h2 :: h3 :: h4 :: more) =
      some (encodeRune (Char.ofNat (((d1 * 16 + d2) * 16 + d3) * 16 + d4)), more) := by
  simp [unescape, unescapeU, getu4, v1, v2, v3, v4, scalar]

theorem hexValue_zero : hexValue 0x30 = some 0 := rfl

theorem readStringLoop_escapeASCII {b : UInt8} (ascii : b.toNat < 0x80) (fuel : Nat)
    (more : List UInt8) :
    readStringLoop (fuel + 1) (escapeASCII b ++ more) =
      (readStringLoop fuel more).map (Prod.map (b :: ·) id) := by
  unfold escapeASCII
  refine ite_of (P := fun l => readStringLoop (fuel + 1) (l ++ more) = _) (fun safe => ?_)
    fun _ => ?_
  · simp only [htmlSafe, Bool.and_eq_true, decide_eq_true_eq, bne_iff_ne, ne_eq] at safe
    exact readStringLoop_plain ⟨safe.1.1.1.1.1, ascii⟩ safe.1.1.1.1.2 safe.1.1.1.2 fuel more
  repeat' refine ite_of (P := fun l => readStringLoop (fuel + 1) (l ++ more) = _)
              (fun escaped => ?_) fun _ => ?_
  all_goals simp only [List.cons_append, List.nil_append]
  -- the escapes of one letter
  any_goals
    first | (rcases escaped with rfl | rfl) | subst escaped
    all_goals simp [readStringLoop, unescape]
  -- the other control bytes, and `<`, `>`, `&`: `\u00` and two hex digits
  have high : b.toNat / 16 < 16 := by omega
  have low : b.toNat % 16 < 16 := Nat.mod_lt _ (by omega)
  rw [readStringLoop_escape (unescape_u hexValue_zero hexValue_zero (hexValue_lowerhex _ high)
    (hexValue_lowerhex _ low) (by omega) _),
    show ((0 * 16 + 0) * 16 + b.toNat / 16) * 16 + b.toNat % 16 = b.toNat by omega,
    encodeRune_ofNat_byte ascii]
  rfl

/-- What `appendString` writes for one rune of a valid string. -/
def escapeRune (c : Char) : List UInt8 :=
  if c.toNat < 0x80 then escapeASCII (UInt8.ofNat c.toNat)
  else if c.toNat = 0x2028 ∨ c.toNat = 0x2029 then
    [0x5C, 0x75, 0x32, 0x30, 0x32, lowerhex (c.toNat % 16)]
  else encodeRune c

theorem appendStringLoop_encodeRune (c : Char) (fuel : Nat) (more : List UInt8) :
    appendStringLoop (fuel + 1) (encodeRune c ++ more) =
      escapeRune c ++ appendStringLoop fuel more := by
  by_cases ascii : c.toNat < 0x80
  · have byte : (UInt8.ofNat c.toNat).toNat = c.toNat := toNat_ofNat_of_lt (by omega)
    rw [encodeRune_ascii ascii, escapeRune, if_pos ascii, List.singleton_append, appendStringLoop,
      if_pos (by rw [byte]; exact ascii)]
  obtain ⟨b, tail, enc, wide, long⟩ := encodeRune_wide (by omega : 0x80 ≤ c.toNat)
  have decoded := decodeRune_encodeRune c more
  have width : (b :: tail).length ≠ 1 := by cases tail <;> simp_all
  rw [enc, List.cons_append] at decoded
  rw [escapeRune, if_neg ascii, enc, List.cons_append, appendStringLoop, if_neg (by omega)]
  simp only [decoded, width, and_false, if_false]
  split_ifs <;> simp

theorem readStringLoop_escapeRune (c : Char) (fuel : Nat) (more : List UInt8) :
    readStringLoop (fuel + 1) (escapeRune c ++ more) =
      (readStringLoop fuel more).map (Prod.map (encodeRune c ++ ·) id) := by
  unfold escapeRune
  by_cases ascii : c.toNat < 0x80
  · have byte : (UInt8.ofNat c.toNat).toNat = c.toNat := toNat_ofNat_of_lt (by omega)
    rw [if_pos ascii, readStringLoop_escapeASCII (by omega), encodeRune_ascii ascii]
    rfl
  rw [if_neg ascii]
  by_cases separator : c.toNat = 0x2028 ∨ c.toNat = 0x2029
  · rw [if_pos separator]
    have low : c.toNat % 16 < 16 := Nat.mod_lt _ (by omega)
    simp only [List.cons_append, List.nil_append]
    rw [readStringLoop_escape (unescape_u (show hexValue 0x32 = some 2 from rfl) hexValue_zero
      (show hexValue 0x32 = some 2 from rfl) (hexValue_lowerhex _ low) (by omega) _),
      ofNat_eq_of_toNat (c := c) (by omega)]
  rw [if_neg separator]
  obtain ⟨b, tail, enc, wide, -⟩ := encodeRune_wide (by omega : 0x80 ≤ c.toNat)
  have decoded := decodeRune_encodeRune c more
  rw [enc, List.cons_append] at decoded ⊢
  have quote : b ≠ 0x22 := by rintro rfl; exact absurd wide (by decide)
  have backslash : b ≠ 0x5C := by rintro rfl; exact absurd wide (by decide)
  simp only [readStringLoop, if_neg quote, if_neg backslash,
    if_neg (show ¬ b.toNat < 0x20 by omega), if_neg (show ¬ b.toNat < 0x80 by omega), decoded]
  simp [enc]

theorem escapeRune_ne_nil (c : Char) : escapeRune c ≠ [] := by
  unfold escapeRune escapeASCII
  repeat' refine ite_of (P := (· ≠ [])) (fun _ => ?_) fun _ => ?_
  all_goals first | exact encodeRune_ne_nil c | simp

theorem length_le_flatMap_escapeRune (rs : List Char) :
    rs.length ≤ (rs.flatMap escapeRune).length := by
  induction rs with
  | nil => simp
  | cons c rs ih =>
    have := List.length_pos.mpr (escapeRune_ne_nil c)
    simp only [List.flatMap_cons, List.length_append, List.length_cons]
    omega

theorem appendStringLoop_encodeRunes (rs : List Char) {fuel : Nat}
    (enough : (encodeRunes rs).length ≤ fuel) :
    appendStringLoop fuel (encodeRunes rs) = rs.flatMap escapeRune := by
  induction rs generalizing fuel with
  | nil => cases fuel <;> rfl
  | cons c rs ih =>
    have long : 1 ≤ (encodeRune c).length := List.length_pos.mpr (encodeRune_ne_nil c)
    simp only [encodeRunes, List.flatMap_cons, List.length_append] at enough ⊢
    obtain ⟨fuel, rfl⟩ : ∃ n, fuel = n + 1 := ⟨fuel - 1, by omega⟩
    rw [appendStringLoop_encodeRune, ← encodeRunes, ih (by simp only [encodeRunes]; omega)]

theorem readStringLoop_escapeRunes (rs : List Char) (rest : List UInt8) {fuel : Nat}
    (enough : rs.length < fuel) :
    readStringLoop fuel (rs.flatMap escapeRune ++ 0x22 :: rest) = some (encodeRunes rs, rest) := by
  obtain ⟨fuel, rfl⟩ : ∃ n, fuel = n + 1 := ⟨fuel - 1, by omega⟩
  induction rs generalizing fuel with
  | nil => simp [readStringLoop, encodeRunes]
  | cons c rs ih =>
    obtain ⟨fuel, rfl⟩ : ∃ n, fuel = n + 1 := ⟨fuel - 1, by simp only [List.length_cons] at enough; omega⟩
    rw [List.flatMap_cons, List.append_assoc, readStringLoop_escapeRune,
      ih fuel (by simp only [List.length_cons] at enough; omega)]
    simp [encodeRunes]

/-- The literal `json.Marshal` writes for a valid UTF-8 string reads back as that string,
whatever follows it. -/
theorem readString_marshalString {s : List UInt8} (valid : Valid s) (rest : List UInt8) :
    readString (marshalString s ++ rest) = some (s, rest) := by
  obtain ⟨rs, rfl⟩ := valid
  have short := length_le_flatMap_escapeRune rs
  rw [marshalString, appendStringLoop_encodeRunes rs le_rfl]
  simp only [List.cons_append, List.append_assoc, List.singleton_append, readString, if_pos]
  exact readStringLoop_escapeRunes rs rest
    (by simp only [List.length_append, List.length_cons]; omega)

/-- An object of one member, its key and value written by `json.Marshal`, reads back as
that member. -/
theorem readObject_marshalString {key value : List UInt8} (validKey : Valid key)
    (validValue : Valid value) :
    readObject ([0x7B] ++ marshalString key ++ [0x3A, 0x20] ++ marshalString value ++ [0x7D]) =
      some [(key, value)] := by
  obtain ⟨keyTail, keyQuote⟩ : ∃ t, marshalString key = 0x22 :: t := ⟨_, rfl⟩
  obtain ⟨valueTail, valueQuote⟩ : ∃ t, marshalString value = 0x22 :: t := ⟨_, rfl⟩
  have readKey := readString_marshalString validKey
  have readValue := readString_marshalString validValue
  simp only [keyQuote, valueQuote, List.cons_append, List.singleton_append, List.append_assoc,
    List.nil_append] at readKey readValue ⊢
  have keep : ∀ {b : UInt8} (l : List UInt8), isSpace b = false →
      (b :: l).dropWhile isSpace = b :: l :=
    fun _ notSpace => List.dropWhile_cons_of_neg (by simp [notSpace])
  have space : (0x20 :: 0x22 :: (valueTail ++ [0x7D])).dropWhile isSpace =
      0x22 :: (valueTail ++ [0x7D]) := by
    rw [List.dropWhile_cons_of_pos (by decide), keep (b := 0x22) _ rfl]
  unfold readObject readMembers
  simp only [keep (b := 0x7B) _ rfl, keep (b := 0x22) _ rfl, keep (b := 0x3A) _ rfl,
    keep (b := 0x7D) _ rfl,
    List.head?_cons, List.drop_one, List.tail_cons, List.length_cons, ne_eq, not_true_eq_false,
    if_false, Option.some.injEq, show ¬ (0x22 : UInt8) = 0x7D by decide, readKey, Option.some_bind,
    space, readValue, show ¬ (0x7D : UInt8) = 0x2C by decide, List.dropWhile_nil, and_self, if_true]

end Authd.Json
