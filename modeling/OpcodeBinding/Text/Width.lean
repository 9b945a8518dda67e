import OpcodeBinding.Text.Emoji
import OpcodeBinding.Text.Ligature

/-! The number of columns a text takes on a character grid. Texts are read from their end, because
selectors, modifiers and joiners act on the character before them. -/
namespace OpcodeBinding.Text

inductive Style where
  | emoji
  | text
  deriving DecidableEq, Repr

/-- What the characters read so far ask of the one before them. -/
inductive Demand where
  | nothing
  | emoji
  | modifier
  /-- One regional indicator, which makes a flag with the one before it. -/
  | indicator
  /-- Two regional indicators or more. -/
  | indicators
  /-- A zero width joiner with an emoji behind it. -/
  | joiner
  /-- An enclosing keycap, and behind it a joiner and an emoji. -/
  | keycap
  /-- A regional indicator, and behind it a joiner and an emoji. -/
  | joinedIndicator
  /-- An even number of those. -/
  | evenIndicators
  /-- An odd number of those, at least three. -/
  | oddIndicators
  /-- The end of a flag's name, which is written in tags: its letters and the digits before them. -/
  | tags (letters digits : Nat)
  | ligature (rest : LigatureEnd)
  deriving DecidableEq, Repr

structure Following where
  demand : Demand := .nothing
  style? : Option Style := none
  deriving DecidableEq, Repr

/-- The columns of a character that nothing acts on, and what it asks of the one before it. Control
characters count as one column, the Khmer vowel qaa as two, and the Khmer sign beyyal as three. -/
def alone (c : Char) : Int × Demand :=
  if c.toNat ≤ 0xA0 then (1, .nothing)
  else if c.toNat = 0x17A4 then (2, .nothing)
  else if c.toNat = 0x17D8 then (3, .nothing)
  else if isModifier c then (2, .modifier)
  else if isIndicator c then (1, .indicator)
  else if inRanges emojiRanges c then (2, .emoji)
  else if inRanges zeroWidthRanges c then (0, .nothing)
  else if inRanges wideRanges c then (2, .nothing)
  else (1, (LigatureEnd.ofLetter? c).elim .nothing .ligature)

namespace Demand

def isJoined : Demand → Bool
  | .joiner | .keycap => true
  | _ => false

def underStyle : Demand → Style → Demand
  | .ligature rest, _ => .ligature rest
  | .joiner, .emoji => .joiner
  | .keycap, .emoji => .keycap
  | _, _ => .nothing

def withoutEmoji : Demand → Demand
  | .ligature rest => .ligature rest
  | _ => .nothing

/-- A flag's name in tags has three to six letters, or three digits and up to four letters. -/
def extendTags? (c : Char) (letters digits : Nat) : Option (Int × Demand) :=
  let isLetter := 0xE0061 ≤ c.toNat && c.toNat ≤ 0xE007A
  let isDigit := 0xE0030 ≤ c.toNat && c.toNat ≤ 0xE0039
  if isLetter && digits == 0 && letters < 6 then some (0, .tags (letters + 1) 0)
  else if isDigit && digits < 3 && letters ≤ 4 then some (0, .tags letters (digits + 1))
  else if c == '🏴' && (digits == 3 || (digits == 0 && 3 ≤ letters)) then some (0, .emoji)
  else none

/-- The columns that a character adds when it is what is asked for. The third, fifth and further
regional indicators of a joined run regroup the pairs behind them. -/
def meet? (c : Char) : Demand → Option (Int × Demand)
  | .nothing | .keycap => none
  | .emoji => if isJoiner c then some (0, .joiner) else none
  | .modifier =>
    if inRanges modifierBaseRanges c then some (0, .emoji)
    else if isJoiner c then some (0, .joiner) else none
  | .indicator => if isIndicator c then some (1, .indicators) else none
  | .indicators =>
    if isIndicator c then some (1, .indicators)
    else if isJoiner c then some (0, .joiner) else none
  | .joiner =>
    if c == '\u20e3' then some (0, .keycap)
    else if c.toNat == 0xE007F then some (0, .tags 0 0)
    else if isIndicator c then some (1, .joinedIndicator)
    else if isModifier c then some (0, .modifier)
    else if inRanges emojiRanges c then some (0, .emoji)
    else none
  | .joinedIndicator => if isIndicator c then some (-1, .evenIndicators) else none
  | .evenIndicators =>
    if isIndicator c then some (3, .oddIndicators)
    else if isJoiner c then some (0, .joiner) else none
  | .oddIndicators =>
    if isIndicator c then some (-1, .evenIndicators)
    else if isJoiner c then some (0, .joiner) else none
  | .tags letters digits => extendTags? c letters digits
  | .ligature rest => (rest.extend? c).map fun part => (part.1, part.2.elim .nothing .ligature)

end Demand

def before (c : Char) (following : Following) : Int × Following :=
  if following.style? = some .emoji ∧ takesEmojiStyle c then
    (if following.demand.isJoined then 0 else 2, ⟨.emoji, none⟩)
  else if c.toNat ≤ 0xA0 then (1, {})
  else
    let demand :=
      if following.style? = some .emoji then following.demand.withoutEmoji else following.demand
    if c = '\ufe0f' then (0, ⟨demand.underStyle .emoji, some .emoji⟩)
    else if c = '\ufe0e' then (0, ⟨demand.underStyle .text, some .text⟩)
    else if following.style? = some .text ∧ takesTextStyle c then (1, {})
    else
      let this := (demand.meet? c).getD (alone c)
      (this.1, ⟨this.2, none⟩)

def measure : List Char → Int × Following :=
  List.foldr (fun c rest => let this := before c rest.2; (this.1 + rest.1, this.2)) (0, {})

inductive Colour where
  | outside
  | escape
  | inside
  deriving DecidableEq, Repr

def isVisible (c : Char) : Bool :=
  let control := c.toNat < 0x20 || (0x7F ≤ c.toNat && c.toNat < 0xA0)
  !control && 0 < (alone c).1

/-- The characters of colour sequences that would show if they were not consumed by a terminal. The
escape that opens a sequence keeps its column. -/
def hidden : Colour → List Char → Nat
  | _, [] => 0
  | .outside, c :: cs => hidden (if c = '\x1b' then .escape else .outside) cs
  | .escape, c :: cs => if c = '[' then 1 + hidden .inside cs else hidden .outside cs
  | .inside, c :: cs =>
    (if isVisible c then 1 else 0) + hidden (if c = 'm' then .outside else .inside) cs

def displayWidth (line : List Char) : Nat := (measure line).1.toNat - hidden .outside line

end OpcodeBinding.Text
