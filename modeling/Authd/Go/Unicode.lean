import Authd.Go.Utf8

/-!
# `unicode` case mapping and `strings.ToUpper` / `strings.ToLower`

`unicode.ToUpper` and `unicode.ToLower` are the simple case mappings of the
Unicode Character Database, looked up in `unicode.CaseRanges`: a sorted list of
rune ranges, each with the offsets to add for upper, lower and title case, or
the `UpperLower` marker of a run where upper and lower case alternate.
`caseRanges` below is that table for Unicode 14.0.0, in Go's format.

`strings.ToUpper` and `strings.ToLower` map every rune of the string and
re-encode it. Their ASCII fast paths and `strings.Map` give the same bytes as
`decodeRunes`, map, `encodeRunes`: `Map` writes `RuneError` for every byte
that does not decode, which is what `decodeRunes` yields there.
-/

namespace Authd.Unicode

/-- The `Delta` of a `CaseRange`: offsets for `UpperCase`, `LowerCase` and
`TitleCase`, or `UpperLower` (`MaxRune + 1` in all three slots). -/
inductive CaseDelta
  | delta (upper lower title : Int)
  | upperLower

/-- `unicode.CaseRange`. -/
structure CaseRange where
  lo : Nat
  hi : Nat
  delta : CaseDelta

/-- Basic Latin, Latin-1 Supplement and Latin Extended-A. -/
def latinRanges : List CaseRange := [
  ⟨0x0041, 0x005A, .delta 0 32 0⟩, ⟨0x0061, 0x007A, .delta (-32) 0 (-32)⟩,
  ⟨0x00B5, 0x00B5, .delta 743 0 743⟩, ⟨0x00C0, 0x00D6, .delta 0 32 0⟩,
  ⟨0x00D8, 0x00DE, .delta 0 32 0⟩, ⟨0x00E0, 0x00F6, .delta (-32) 0 (-32)⟩,
  ⟨0x00F8, 0x00FE, .delta (-32) 0 (-32)⟩, ⟨0x00FF, 0x00FF, .delta 121 0 121⟩,
  ⟨0x0100, 0x012F, .upperLower⟩, ⟨0x0130, 0x0130, .delta 0 (-199) 0⟩,
  ⟨0x0131, 0x0131, .delta (-232) 0 (-232)⟩, ⟨0x0132, 0x0137, .upperLower⟩,
  ⟨0x0139, 0x0148, .upperLower⟩, ⟨0x014A, 0x0177, .upperLower⟩,
  ⟨0x0178, 0x0178, .delta 0 (-121) 0⟩, ⟨0x0179, 0x017E, .upperLower⟩,
  ⟨0x017F, 0x017F, .delta (-300) 0 (-300)⟩]

/-- Latin Extended-B, U+0180 to U+01FF. -/
def latinExtendedBRanges : List CaseRange := [
  ⟨0x0180, 0x0180, .delta 195 0 195⟩, ⟨0x0181, 0x0181, .delta 0 210 0⟩,
  ⟨0x0182, 0x0185, .upperLower⟩, ⟨0x0186, 0x0186, .delta 0 206 0⟩, ⟨0x0187, 0x0188, .upperLower⟩,
  ⟨0x0189, 0x018A, .delta 0 205 0⟩, ⟨0x018B, 0x018C, .upperLower⟩, ⟨0x018E, 0x018E, .delta 0 79 0⟩,
  ⟨0x018F, 0x018F, .delta 0 202 0⟩, ⟨0x0190, 0x0190, .delta 0 203 0⟩,
  ⟨0x0191, 0x0192, .upperLower⟩, ⟨0x0193, 0x0193, .delta 0 205 0⟩,
  ⟨0x0194, 0x0194, .delta 0 207 0⟩, ⟨0x0195, 0x0195, .delta 97 0 97⟩,
  ⟨0x0196, 0x0196, .delta 0 211 0⟩, ⟨0x0197, 0x0197, .delta 0 209 0⟩,
  ⟨0x0198, 0x0199, .upperLower⟩, ⟨0x019A, 0x019A, .delta 163 0 163⟩,
  ⟨0x019C, 0x019C, .delta 0 211 0⟩, ⟨0x019D, 0x019D, .delta 0 213 0⟩,
  ⟨0x019E, 0x019E, .delta 130 0 130⟩, ⟨0x019F, 0x019F, .delta 0 214 0⟩,
  ⟨0x01A0, 0x01A5, .upperLower⟩, ⟨0x01A6, 0x01A6, .delta 0 218 0⟩, ⟨0x01A7, 0x01A8, .upperLower⟩,
  ⟨0x01A9, 0x01A9, .delta 0 218 0⟩, ⟨0x01AC, 0x01AD, .upperLower⟩,
  ⟨0x01AE, 0x01AE, .delta 0 218 0⟩, ⟨0x01AF, 0x01B0, .upperLower⟩,
  ⟨0x01B1, 0x01B2, .delta 0 217 0⟩, ⟨0x01B3, 0x01B6, .upperLower⟩,
  ⟨0x01B7, 0x01B7, .delta 0 219 0⟩, ⟨0x01B8, 0x01B9, .upperLower⟩, ⟨0x01BC, 0x01BD, .upperLower⟩,
  ⟨0x01BF, 0x01BF, .delta 56 0 56⟩, ⟨0x01C4, 0x01C4, .delta 0 2 1⟩,
  ⟨0x01C5, 0x01C5, .delta (-1) 1 0⟩, ⟨0x01C6, 0x01C6, .delta (-2) 0 (-1)⟩,
  ⟨0x01C7, 0x01C7, .delta 0 2 1⟩, ⟨0x01C8, 0x01C8, .delta (-1) 1 0⟩,
  ⟨0x01C9, 0x01C9, .delta (-2) 0 (-1)⟩, ⟨0x01CA, 0x01CA, .delta 0 2 1⟩,
  ⟨0x01CB, 0x01CB, .delta (-1) 1 0⟩, ⟨0x01CC, 0x01CC, .delta (-2) 0 (-1)⟩,
  ⟨0x01CD, 0x01DC, .upperLower⟩, ⟨0x01DD, 0x01DD, .delta (-79) 0 (-79)⟩,
  ⟨0x01DE, 0x01EF, .upperLower⟩, ⟨0x01F1, 0x01F1, .delta 0 2 1⟩, ⟨0x01F2, 0x01F2, .delta (-1) 1 0⟩,
  ⟨0x01F3, 0x01F3, .delta (-2) 0 (-1)⟩, ⟨0x01F4, 0x01F5, .upperLower⟩,
  ⟨0x01F6, 0x01F6, .delta 0 (-97) 0⟩, ⟨0x01F7, 0x01F7, .delta 0 (-56) 0⟩,
  ⟨0x01F8, 0x021F, .upperLower⟩]

/-- Latin Extended-B, U+0200 to U+024F. -/
def latinExtendedBHighRanges : List CaseRange := [
  ⟨0x0220, 0x0220, .delta 0 (-130) 0⟩, ⟨0x0222, 0x0233, .upperLower⟩,
  ⟨0x023A, 0x023A, .delta 0 10795 0⟩, ⟨0x023B, 0x023C, .upperLower⟩,
  ⟨0x023D, 0x023D, .delta 0 (-163) 0⟩, ⟨0x023E, 0x023E, .delta 0 10792 0⟩,
  ⟨0x023F, 0x0240, .delta 10815 0 10815⟩, ⟨0x0241, 0x0242, .upperLower⟩,
  ⟨0x0243, 0x0243, .delta 0 (-195) 0⟩, ⟨0x0244, 0x0244, .delta 0 69 0⟩,
  ⟨0x0245, 0x0245, .delta 0 71 0⟩, ⟨0x0246, 0x024F, .upperLower⟩]

/-- IPA Extensions. -/
def ipaRanges : List CaseRange := [
  ⟨0x0250, 0x0250, .delta 10783 0 10783⟩, ⟨0x0251, 0x0251, .delta 10780 0 10780⟩,
  ⟨0x0252, 0x0252, .delta 10782 0 10782⟩, ⟨0x0253, 0x0253, .delta (-210) 0 (-210)⟩,
  ⟨0x0254, 0x0254, .delta (-206) 0 (-206)⟩, ⟨0x0256, 0x0257, .delta (-205) 0 (-205)⟩,
  ⟨0x0259, 0x0259, .delta (-202) 0 (-202)⟩, ⟨0x025B, 0x025B, .delta (-203) 0 (-203)⟩,
  ⟨0x025C, 0x025C, .delta 42319 0 42319⟩, ⟨0x0260, 0x0260, .delta (-205) 0 (-205)⟩,
  ⟨0x0261, 0x0261, .delta 42315 0 42315⟩, ⟨0x0263, 0x0263, .delta (-207) 0 (-207)⟩,
  ⟨0x0265, 0x0265, .delta 42280 0 42280⟩, ⟨0x0266, 0x0266, .delta 42308 0 42308⟩,
  ⟨0x0268, 0x0268, .delta (-209) 0 (-209)⟩, ⟨0x0269, 0x0269, .delta (-211) 0 (-211)⟩,
  ⟨0x026A, 0x026A, .delta 42308 0 42308⟩, ⟨0x026B, 0x026B, .delta 10743 0 10743⟩,
  ⟨0x026C, 0x026C, .delta 42305 0 42305⟩, ⟨0x026F, 0x026F, .delta (-211) 0 (-211)⟩,
  ⟨0x0271, 0x0271, .delta 10749 0 10749⟩, ⟨0x0272, 0x0272, .delta (-213) 0 (-213)⟩,
  ⟨0x0275, 0x0275, .delta (-214) 0 (-214)⟩, ⟨0x027D, 0x027D, .delta 10727 0 10727⟩,
  ⟨0x0280, 0x0280, .delta (-218) 0 (-218)⟩, ⟨0x0282, 0x0282, .delta 42307 0 42307⟩,
  ⟨0x0283, 0x0283, .delta (-218) 0 (-218)⟩, ⟨0x0287, 0x0287, .delta 42282 0 42282⟩,
  ⟨0x0288, 0x0288, .delta (-218) 0 (-218)⟩, ⟨0x0289, 0x0289, .delta (-69) 0 (-69)⟩,
  ⟨0x028A, 0x028B, .delta (-217) 0 (-217)⟩, ⟨0x028C, 0x028C, .delta (-71) 0 (-71)⟩,
  ⟨0x0292, 0x0292, .delta (-219) 0 (-219)⟩, ⟨0x029D, 0x029D, .delta 42261 0 42261⟩,
  ⟨0x029E, 0x029E, .delta 42258 0 42258⟩, ⟨0x0345, 0x0345, .delta 84 0 84⟩]

/-- Greek and Coptic. -/
def greekRanges : List CaseRange := [
  ⟨0x0370, 0x0373, .upperLower⟩, ⟨0x0376, 0x0377, .upperLower⟩, ⟨0x037B, 0x037D, .delta 130 0 130⟩,
  ⟨0x037F, 0x037F, .delta 0 116 0⟩, ⟨0x0386, 0x0386, .delta 0 38 0⟩,
  ⟨0x0388, 0x038A, .delta 0 37 0⟩, ⟨0x038C, 0x038C, .delta 0 64 0⟩,
  ⟨0x038E, 0x038F, .delta 0 63 0⟩, ⟨0x0391, 0x03A1, .delta 0 32 0⟩,
  ⟨0x03A3, 0x03AB, .delta 0 32 0⟩, ⟨0x03AC, 0x03AC, .delta (-38) 0 (-38)⟩,
  ⟨0x03AD, 0x03AF, .delta (-37) 0 (-37)⟩, ⟨0x03B1, 0x03C1, .delta (-32) 0 (-32)⟩,
  ⟨0x03C2, 0x03C2, .delta (-31) 0 (-31)⟩, ⟨0x03C3, 0x03CB, .delta (-32) 0 (-32)⟩,
  ⟨0x03CC, 0x03CC, .delta (-64) 0 (-64)⟩, ⟨0x03CD, 0x03CE, .delta (-63) 0 (-63)⟩,
  ⟨0x03CF, 0x03CF, .delta 0 8 0⟩, ⟨0x03D0, 0x03D0, .delta (-62) 0 (-62)⟩,
  ⟨0x03D1, 0x03D1, .delta (-57) 0 (-57)⟩, ⟨0x03D5, 0x03D5, .delta (-47) 0 (-47)⟩,
  ⟨0x03D6, 0x03D6, .delta (-54) 0 (-54)⟩, ⟨0x03D7, 0x03D7, .delta (-8) 0 (-8)⟩,
  ⟨0x03D8, 0x03EF, .upperLower⟩, ⟨0x03F0, 0x03F0, .delta (-86) 0 (-86)⟩,
  ⟨0x03F1, 0x03F1, .delta (-80) 0 (-80)⟩, ⟨0x03F2, 0x03F2, .delta 7 0 7⟩,
  ⟨0x03F3, 0x03F3, .delta (-116) 0 (-116)⟩, ⟨0x03F4, 0x03F4, .delta 0 (-60) 0⟩,
  ⟨0x03F5, 0x03F5, .delta (-96) 0 (-96)⟩, ⟨0x03F7, 0x03F8, .upperLower⟩,
  ⟨0x03F9, 0x03F9, .delta 0 (-7) 0⟩, ⟨0x03FA, 0x03FB, .upperLower⟩,
  ⟨0x03FD, 0x03FF, .delta 0 (-130) 0⟩]

/-- Cyrillic, Armenian, Georgian, Cherokee and the phonetic extensions. -/
def cyrillicToPhoneticRanges : List CaseRange := [
  ⟨0x0400, 0x040F, .delta 0 80 0⟩, ⟨0x0410, 0x042F, .delta 0 32 0⟩,
  ⟨0x0430, 0x044F, .delta (-32) 0 (-32)⟩, ⟨0x0450, 0x045F, .delta (-80) 0 (-80)⟩,
  ⟨0x0460, 0x0481, .upperLower⟩, ⟨0x048A, 0x04BF, .upperLower⟩, ⟨0x04C0, 0x04C0, .delta 0 15 0⟩,
  ⟨0x04C1, 0x04CE, .upperLower⟩, ⟨0x04CF, 0x04CF, .delta (-15) 0 (-15)⟩,
  ⟨0x04D0, 0x052F, .upperLower⟩, ⟨0x0531, 0x0556, .delta 0 48 0⟩,
  ⟨0x0561, 0x0586, .delta (-48) 0 (-48)⟩, ⟨0x10A0, 0x10C5, .delta 0 7264 0⟩,
  ⟨0x10C7, 0x10C7, .delta 0 7264 0⟩, ⟨0x10CD, 0x10CD, .delta 0 7264 0⟩,
  ⟨0x10D0, 0x10FA, .delta 3008 0 0⟩, ⟨0x10FD, 0x10FF, .delta 3008 0 0⟩,
  ⟨0x13A0, 0x13EF, .delta 0 38864 0⟩, ⟨0x13F0, 0x13F5, .delta 0 8 0⟩,
  ⟨0x13F8, 0x13FD, .delta (-8) 0 (-8)⟩, ⟨0x1C80, 0x1C80, .delta (-6254) 0 (-6254)⟩,
  ⟨0x1C81, 0x1C81, .delta (-6253) 0 (-6253)⟩, ⟨0x1C82, 0x1C82, .delta (-6244) 0 (-6244)⟩,
  ⟨0x1C83, 0x1C84, .delta (-6242) 0 (-6242)⟩, ⟨0x1C85, 0x1C85, .delta (-6243) 0 (-6243)⟩,
  ⟨0x1C86, 0x1C86, .delta (-6236) 0 (-6236)⟩, ⟨0x1C87, 0x1C87, .delta (-6181) 0 (-6181)⟩,
  ⟨0x1C88, 0x1C88, .delta 35266 0 35266⟩, ⟨0x1C90, 0x1CBA, .delta 0 (-3008) 0⟩,
  ⟨0x1CBD, 0x1CBF, .delta 0 (-3008) 0⟩, ⟨0x1D79, 0x1D79, .delta 35332 0 35332⟩,
  ⟨0x1D7D, 0x1D7D, .delta 3814 0 3814⟩, ⟨0x1D8E, 0x1D8E, .delta 35384 0 35384⟩]

/-- Latin Extended Additional and Greek Extended up to U+1F7F. -/
def latinAdditionalRanges : List CaseRange := [
  ⟨0x1E00, 0x1E95, .upperLower⟩, ⟨0x1E9B, 0x1E9B, .delta (-59) 0 (-59)⟩,
  ⟨0x1E9E, 0x1E9E, .delta 0 (-7615) 0⟩, ⟨0x1EA0, 0x1EFF, .upperLower⟩,
  ⟨0x1F00, 0x1F07, .delta 8 0 8⟩, ⟨0x1F08, 0x1F0F, .delta 0 (-8) 0⟩,
  ⟨0x1F10, 0x1F15, .delta 8 0 8⟩, ⟨0x1F18, 0x1F1D, .delta 0 (-8) 0⟩,
  ⟨0x1F20, 0x1F27, .delta 8 0 8⟩, ⟨0x1F28, 0x1F2F, .delta 0 (-8) 0⟩,
  ⟨0x1F30, 0x1F37, .delta 8 0 8⟩, ⟨0x1F38, 0x1F3F, .delta 0 (-8) 0⟩,
  ⟨0x1F40, 0x1F45, .delta 8 0 8⟩, ⟨0x1F48, 0x1F4D, .delta 0 (-8) 0⟩,
  ⟨0x1F51, 0x1F51, .delta 8 0 8⟩, ⟨0x1F53, 0x1F53, .delta 8 0 8⟩, ⟨0x1F55, 0x1F55, .delta 8 0 8⟩,
  ⟨0x1F57, 0x1F57, .delta 8 0 8⟩, ⟨0x1F59, 0x1F59, .delta 0 (-8) 0⟩,
  ⟨0x1F5B, 0x1F5B, .delta 0 (-8) 0⟩, ⟨0x1F5D, 0x1F5D, .delta 0 (-8) 0⟩,
  ⟨0x1F5F, 0x1F5F, .delta 0 (-8) 0⟩, ⟨0x1F60, 0x1F67, .delta 8 0 8⟩,
  ⟨0x1F68, 0x1F6F, .delta 0 (-8) 0⟩, ⟨0x1F70, 0x1F71, .delta 74 0 74⟩,
  ⟨0x1F72, 0x1F75, .delta 86 0 86⟩, ⟨0x1F76, 0x1F77, .delta 100 0 100⟩,
  ⟨0x1F78, 0x1F79, .delta 128 0 128⟩, ⟨0x1F7A, 0x1F7B, .delta 112 0 112⟩,
  ⟨0x1F7C, 0x1F7D, .delta 126 0 126⟩]

/-- Greek Extended from U+1F80. -/
def greekExtendedRanges : List CaseRange := [
  ⟨0x1F80, 0x1F87, .delta 8 0 8⟩, ⟨0x1F88, 0x1F8F, .delta 0 (-8) 0⟩,
  ⟨0x1F90, 0x1F97, .delta 8 0 8⟩, ⟨0x1F98, 0x1F9F, .delta 0 (-8) 0⟩,
  ⟨0x1FA0, 0x1FA7, .delta 8 0 8⟩, ⟨0x1FA8, 0x1FAF, .delta 0 (-8) 0⟩,
  ⟨0x1FB0, 0x1FB1, .delta 8 0 8⟩, ⟨0x1FB3, 0x1FB3, .delta 9 0 9⟩,
  ⟨0x1FB8, 0x1FB9, .delta 0 (-8) 0⟩, ⟨0x1FBA, 0x1FBB, .delta 0 (-74) 0⟩,
  ⟨0x1FBC, 0x1FBC, .delta 0 (-9) 0⟩, ⟨0x1FBE, 0x1FBE, .delta (-7205) 0 (-7205)⟩,
  ⟨0x1FC3, 0x1FC3, .delta 9 0 9⟩, ⟨0x1FC8, 0x1FCB, .delta 0 (-86) 0⟩,
  ⟨0x1FCC, 0x1FCC, .delta 0 (-9) 0⟩, ⟨0x1FD0, 0x1FD1, .delta 8 0 8⟩,
  ⟨0x1FD8, 0x1FD9, .delta 0 (-8) 0⟩, ⟨0x1FDA, 0x1FDB, .delta 0 (-100) 0⟩,
  ⟨0x1FE0, 0x1FE1, .delta 8 0 8⟩, ⟨0x1FE5, 0x1FE5, .delta 7 0 7⟩,
  ⟨0x1FE8, 0x1FE9, .delta 0 (-8) 0⟩, ⟨0x1FEA, 0x1FEB, .delta 0 (-112) 0⟩,
  ⟨0x1FEC, 0x1FEC, .delta 0 (-7) 0⟩, ⟨0x1FF3, 0x1FF3, .delta 9 0 9⟩,
  ⟨0x1FF8, 0x1FF9, .delta 0 (-128) 0⟩, ⟨0x1FFA, 0x1FFB, .delta 0 (-126) 0⟩,
  ⟨0x1FFC, 0x1FFC, .delta 0 (-9) 0⟩]

/-- letterlike and enclosed symbols, Glagolitic, Latin Extended-C, Coptic and Georgian Supplement. -/
def symbolsToCopticRanges : List CaseRange := [
  ⟨0x2126, 0x2126, .delta 0 (-7517) 0⟩, ⟨0x212A, 0x212A, .delta 0 (-8383) 0⟩,
  ⟨0x212B, 0x212B, .delta 0 (-8262) 0⟩, ⟨0x2132, 0x2132, .delta 0 28 0⟩,
  ⟨0x214E, 0x214E, .delta (-28) 0 (-28)⟩, ⟨0x2160, 0x216F, .delta 0 16 0⟩,
  ⟨0x2170, 0x217F, .delta (-16) 0 (-16)⟩, ⟨0x2183, 0x2184, .upperLower⟩,
  ⟨0x24B6, 0x24CF, .delta 0 26 0⟩, ⟨0x24D0, 0x24E9, .delta (-26) 0 (-26)⟩,
  ⟨0x2C00, 0x2C2F, .delta 0 48 0⟩, ⟨0x2C30, 0x2C5F, .delta (-48) 0 (-48)⟩,
  ⟨0x2C60, 0x2C61, .upperLower⟩, ⟨0x2C62, 0x2C62, .delta 0 (-10743) 0⟩,
  ⟨0x2C63, 0x2C63, .delta 0 (-3814) 0⟩, ⟨0x2C64, 0x2C64, .delta 0 (-10727) 0⟩,
  ⟨0x2C65, 0x2C65, .delta (-10795) 0 (-10795)⟩, ⟨0x2C66, 0x2C66, .delta (-10792) 0 (-10792)⟩,
  ⟨0x2C67, 0x2C6C, .upperLower⟩, ⟨0x2C6D, 0x2C6D, .delta 0 (-10780) 0⟩,
  ⟨0x2C6E, 0x2C6E, .delta 0 (-10749) 0⟩, ⟨0x2C6F, 0x2C6F, .delta 0 (-10783) 0⟩,
  ⟨0x2C70, 0x2C70, .delta 0 (-10782) 0⟩, ⟨0x2C72, 0x2C73, .upperLower⟩,
  ⟨0x2C75, 0x2C76, .upperLower⟩, ⟨0x2C7E, 0x2C7F, .delta 0 (-10815) 0⟩,
  ⟨0x2C80, 0x2CE3, .upperLower⟩, ⟨0x2CEB, 0x2CEE, .upperLower⟩, ⟨0x2CF2, 0x2CF3, .upperLower⟩,
  ⟨0x2D00, 0x2D25, .delta (-7264) 0 (-7264)⟩, ⟨0x2D27, 0x2D27, .delta (-7264) 0 (-7264)⟩,
  ⟨0x2D2D, 0x2D2D, .delta (-7264) 0 (-7264)⟩]

/-- Cyrillic Extended-B, Latin Extended-D, Cherokee Supplement and fullwidth Latin. -/
def cyrillicExtendedBRanges : List CaseRange := [
  ⟨0xA640, 0xA66D, .upperLower⟩, ⟨0xA680, 0xA69B, .upperLower⟩, ⟨0xA722, 0xA72F, .upperLower⟩,
  ⟨0xA732, 0xA76F, .upperLower⟩, ⟨0xA779, 0xA77C, .upperLower⟩,
  ⟨0xA77D, 0xA77D, .delta 0 (-35332) 0⟩, ⟨0xA77E, 0xA787, .upperLower⟩,
  ⟨0xA78B, 0xA78C, .upperLower⟩, ⟨0xA78D, 0xA78D, .delta 0 (-42280) 0⟩,
  ⟨0xA790, 0xA793, .upperLower⟩, ⟨0xA794, 0xA794, .delta 48 0 48⟩, ⟨0xA796, 0xA7A9, .upperLower⟩,
  ⟨0xA7AA, 0xA7AA, .delta 0 (-42308) 0⟩, ⟨0xA7AB, 0xA7AB, .delta 0 (-42319) 0⟩,
  ⟨0xA7AC, 0xA7AC, .delta 0 (-42315) 0⟩, ⟨0xA7AD, 0xA7AD, .delta 0 (-42305) 0⟩,
  ⟨0xA7AE, 0xA7AE, .delta 0 (-42308) 0⟩, ⟨0xA7B0, 0xA7B0, .delta 0 (-42258) 0⟩,
  ⟨0xA7B1, 0xA7B1, .delta 0 (-42282) 0⟩, ⟨0xA7B2, 0xA7B2, .delta 0 (-42261) 0⟩,
  ⟨0xA7B3, 0xA7B3, .delta 0 928 0⟩, ⟨0xA7B4, 0xA7C3, .upperLower⟩,
  ⟨0xA7C4, 0xA7C4, .delta 0 (-48) 0⟩, ⟨0xA7C5, 0xA7C5, .delta 0 (-42307) 0⟩,
  ⟨0xA7C6, 0xA7C6, .delta 0 (-35384) 0⟩, ⟨0xA7C7, 0xA7CA, .upperLower⟩,
  ⟨0xA7D0, 0xA7D1, .upperLower⟩, ⟨0xA7D6, 0xA7D9, .upperLower⟩, ⟨0xA7F5, 0xA7F6, .upperLower⟩,
  ⟨0xAB53, 0xAB53, .delta (-928) 0 (-928)⟩, ⟨0xAB70, 0xABBF, .delta (-38864) 0 (-38864)⟩,
  ⟨0xFF21, 0xFF3A, .delta 0 32 0⟩, ⟨0xFF41, 0xFF5A, .delta (-32) 0 (-32)⟩]

/-- the supplementary planes. -/
def supplementaryRanges : List CaseRange := [
  ⟨0x10400, 0x10427, .delta 0 40 0⟩, ⟨0x10428, 0x1044F, .delta (-40) 0 (-40)⟩,
  ⟨0x104B0, 0x104D3, .delta 0 40 0⟩, ⟨0x104D8, 0x104FB, .delta (-40) 0 (-40)⟩,
  ⟨0x10570, 0x1057A, .delta 0 39 0⟩, ⟨0x1057C, 0x1058A, .delta 0 39 0⟩,
  ⟨0x1058C, 0x10592, .delta 0 39 0⟩, ⟨0x10594, 0x10595, .delta 0 39 0⟩,
  ⟨0x10597, 0x105A1, .delta (-39) 0 (-39)⟩, ⟨0x105A3, 0x105B1, .delta (-39) 0 (-39)⟩,
  ⟨0x105B3, 0x105B9, .delta (-39) 0 (-39)⟩, ⟨0x105BB, 0x105BC, .delta (-39) 0 (-39)⟩,
  ⟨0x10C80, 0x10CB2, .delta 0 64 0⟩, ⟨0x10CC0, 0x10CF2, .delta (-64) 0 (-64)⟩,
  ⟨0x118A0, 0x118BF, .delta 0 32 0⟩, ⟨0x118C0, 0x118DF, .delta (-32) 0 (-32)⟩,
  ⟨0x16E40, 0x16E5F, .delta 0 32 0⟩, ⟨0x16E60, 0x16E7F, .delta (-32) 0 (-32)⟩,
  ⟨0x1E900, 0x1E921, .delta 0 34 0⟩, ⟨0x1E922, 0x1E943, .delta (-34) 0 (-34)⟩]

/-- `unicode.CaseRanges`, generated from the simple case mappings of Unicode 14.0.0 and
split by blocks. -/
def caseRanges : List CaseRange :=
  latinRanges ++ latinExtendedBRanges ++ latinExtendedBHighRanges ++ ipaRanges ++ greekRanges ++
    cyrillicToPhoneticRanges ++ latinAdditionalRanges ++ greekExtendedRanges ++
    symbolsToCopticRanges ++ cyrillicExtendedBRanges ++ supplementaryRanges

/-- `UpperCase`, `LowerCase` and `TitleCase`. -/
inductive Case
  | upper
  | lower
  | title
deriving DecidableEq

def Case.pick : Case → Int → Int → Int → Int
  | .upper, u, _, _ => u
  | .lower, _, l, _ => l
  | .title, _, _, t => t

/-- `unicode.To`: the range holding `r`, then its offset; in an `UpperLower` run
the upper case sits at even offsets from `lo` and the lower case at odd ones.
Go finds the range by bisection of the sorted table, which finds the same
range as this scan. -/
def toCase (c : Case) (r : Char) : Char :=
  match caseRanges.find? (fun cr => cr.lo ≤ r.toNat && r.toNat ≤ cr.hi) with
  | none => r
  | some ⟨lo, _, .upperLower⟩ =>
    Char.ofNat (lo + ((r.toNat - lo) / 2 * 2 + if c = .lower then 1 else 0))
  | some ⟨_, _, .delta u l t⟩ => Char.ofNat (r.toNat + c.pick u l t).toNat

/-- `unicode.ToUpper`. -/
def toUpper (r : Char) : Char :=
  if r.toNat ≤ 0x7F then (if 'a' ≤ r ∧ r ≤ 'z' then Char.ofNat (r.toNat - 32) else r)
  else toCase .upper r

/-- `unicode.ToLower`. -/
def toLower (r : Char) : Char :=
  if r.toNat ≤ 0x7F then (if 'A' ≤ r ∧ r ≤ 'Z' then Char.ofNat (r.toNat + 32) else r)
  else toCase .lower r

end Authd.Unicode

namespace Authd.Strings

open Utf8

/-- `strings.ToUpper`. -/
def toUpper (s : List UInt8) : List UInt8 := encodeRunes ((decodeRunes s).map Unicode.toUpper)

/-- `strings.ToLower`. -/
def toLower (s : List UInt8) : List UInt8 := encodeRunes ((decodeRunes s).map Unicode.toLower)

end Authd.Strings
