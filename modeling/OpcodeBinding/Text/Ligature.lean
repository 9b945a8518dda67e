import OpcodeBinding.Text.WidthClass

/-! Letters that are drawn as one glyph with the letters before them. Like all width rules they are
read from the end of the text. -/
namespace OpcodeBinding.Text

inductive Script where
  | arabic
  | buginese
  | hebrew
  | khmer
  | lisu
  | oldTurkic
  | tifinagh
  deriving DecidableEq, Repr

inductive LigatureEnd where
  /-- The last letter, with a zero width joiner before it when `joined`. -/
  | letter (script : Script) (joined : Bool)
  /-- The Buginese vowel sign i before a joined ya. -/
  | bugineseVowel
  /-- The Tifinagh consonant joiner before a consonant. -/
  | tifinaghJoiner
  deriving DecidableEq, Repr

def isJoiner (c : Char) : Bool := c == '\u200d'

def ignorableMarkRanges : Array (Nat × Nat) := #[
  (0x34F, 0x34F), (0x17B4, 0x17B5), (0x180B, 0x180D), (0x180F, 0x180F), (0xFE00, 0xFE0F),
  (0xE0100, 0xE01EF)]

def alefRanges : Array (Nat × Nat) := #[
  (0x622, 0x623), (0x625, 0x625), (0x627, 0x627), (0x671, 0x673), (0x675, 0x675),
  (0x773, 0x774), (0x870, 0x882)]

def lamRanges : Array (Nat × Nat) := #[
  (0x644, 0x644), (0x6B5, 0x6B8), (0x76A, 0x76A), (0x8A6, 0x8A6), (0x8C7, 0x8C7)]

/-- Zero width characters that keep Arabic letters apart. -/
def apartRanges : Array (Nat × Nat) := #[
  (0x605, 0x605), (0x890, 0x891), (0x8E2, 0x8E2), (0x9BE, 0x9BE), (0x9D7, 0x9D7),
  (0xB3E, 0xB3E), (0xB57, 0xB57), (0xBBE, 0xBBE), (0xBD7, 0xBD7), (0xCC0, 0xCC0),
  (0xCC2, 0xCC2), (0xCC7, 0xCC8), (0xCCA, 0xCCB), (0xCD5, 0xCD6), (0xD3E, 0xD3E),
  (0xD4E, 0xD4E), (0xD57, 0xD57), (0xDCF, 0xDCF), (0xDDF, 0xDDF), (0x1160, 0x11FF),
  (0x180E, 0x180E), (0x1B35, 0x1B35), (0x1B3B, 0x1B3B), (0x1B3D, 0x1B3D), (0x1B43, 0x1B43),
  (0x200C, 0x200D), (0x2065, 0x2069), (0x302E, 0x302F), (0x3164, 0x3164), (0xA8FA, 0xA8FA),
  (0xD7B0, 0xD7C6), (0xD7CB, 0xD7FB), (0xFF9E, 0xFFA0), (0xFFF0, 0xFFF8), (0x111C2, 0x111C3),
  (0x1133E, 0x1133E), (0x11357, 0x11357), (0x114B0, 0x114B0), (0x114BD, 0x114BD),
  (0x115AF, 0x115AF), (0x11930, 0x11930), (0x1193F, 0x1193F), (0x11941, 0x11941),
  (0x11A3A, 0x11A3A), (0x11A84, 0x11A89), (0x11D46, 0x11D46), (0x11F02, 0x11F02),
  (0x1D165, 0x1D165), (0x1D16E, 0x1D172), (0xE0000, 0xE0000), (0xE0002, 0xE001F),
  (0xE0080, 0xE00FF), (0xE01F0, 0xE0FFF)]

def khmerRanges : Array (Nat × Nat) := #[
  (0x1780, 0x1782), (0x1784, 0x1787), (0x1789, 0x178C), (0x178E, 0x1793), (0x1795, 0x1798),
  (0x179B, 0x179D), (0x17A0, 0x17A0), (0x17A2, 0x17A2), (0x17A7, 0x17A7), (0x17AB, 0x17AC),
  (0x17AF, 0x17AF)]

def tifinaghRanges : Array (Nat × Nat) := #[(0x2D31, 0x2D65), (0x2D6F, 0x2D6F)]

def lisuToneRanges : Array (Nat × Nat) := #[(0xA4F8, 0xA4FB)]

namespace LigatureEnd

def ofLetter? (c : Char) : Option LigatureEnd :=
  let script? : Option Script :=
    if inRanges alefRanges c then some .arabic
    else if c == 'ל' then some .hebrew
    else if inRanges khmerRanges c then some .khmer
    else if c == 'ᨐ' then some .buginese
    else if inRanges tifinaghRanges c then some .tifinagh
    else if inRanges #[(0xA4FC, 0xA4FD)] c then some .lisu
    else if inRanges #[(0x10C03, 0x10C03)] c then some .oldTurkic
    else none
  script?.map fun script => .letter script false

def join : LigatureEnd → LigatureEnd
  | .letter script _ => .letter script true
  | rest => rest

/-- The columns that a character adds as a part of the ligature, and what may still precede it. A
subscript takes back the column of its letter, and so does a consonant before a consonant joiner. -/
def extend? (c : Char) (rest : LigatureEnd) : Option (Int × Option LigatureEnd) :=
  if isJoiner c then some (0, some rest.join)
  else if inRanges ignorableMarkRanges c then some (0, some rest)
  else
    match rest with
    | .letter .arabic false =>
      if inRanges lamRanges c then some (0, none)
      else if inRanges zeroWidthRanges c && !inRanges apartRanges c then some (0, some rest)
      else none
    | .letter .hebrew true => if c == 'א' then some (0, none) else none
    | .letter .khmer _ => if c.toNat == 0x17D2 then some (-1, none) else none
    | .letter .buginese true => if c.toNat == 0x1A17 then some (0, some .bugineseVowel) else none
    | .bugineseVowel => if c == 'ᨕ' then some (0, none) else none
    | .letter .tifinagh joined =>
      if c.toNat == 0x2D7F then some (1, some .tifinaghJoiner)
      else if joined && inRanges tifinaghRanges c then some (0, none)
      else none
    | .tifinaghJoiner => if inRanges tifinaghRanges c then some (-1, none) else none
    | .letter .lisu _ => if inRanges lisuToneRanges c then some (0, none) else none
    | .letter .oldTurkic true => if c.toNat == 0x10C32 then some (0, none) else none
    | _ => none

end LigatureEnd

end OpcodeBinding.Text
