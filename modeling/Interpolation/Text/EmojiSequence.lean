import Interpolation.Text.WidthTable

/-!
# Emoji sequences

Emoji that are put together from several characters and take two columns as a whole: skin tones,
flags, keycaps, tag sequences, and emoji with joiners between them. A text is read from its end, so
a sequence is known by what of it has been read.
-/

namespace Interpolation.Text

inductive EmojiSequence where
  | emoji
  | modifier
  | flagLetter
  | flagLetters
  | joined
  /-- A keycap mark before a joiner and an emoji. -/
  | joinedKeycap
  /-- One letter of a flag before a joiner and an emoji. -/
  | joinedLetter
  /-- Several letters of flags before a joiner and an emoji. -/
  | joinedLetters (even : Bool)
  /-- Tag letters and the end of the tags before a joiner and an emoji. -/
  | tagLetters (count : Nat)
  /-- Tag digits, with tag letters behind them or not, and the end of the tags before a joiner and
  an emoji. -/
  | tagDigits (count : Nat)
  deriving DecidableEq

def isEmojiModifier (code : Nat) : Bool := 0x1F3FB ≤ code && code ≤ 0x1F3FF

def isFlagLetter (code : Nat) : Bool := 0x1F1E6 ≤ code && code ≤ 0x1F1FF

def isTagLetter (code : Nat) : Bool := 0xE0061 ≤ code && code ≤ 0xE007A

def isTagDigit (code : Nat) : Bool := 0xE0030 ≤ code && code ≤ 0xE0039

namespace EmojiSequence

/-- The sequence that a character can end. -/
def of? (code : Nat) : Option EmojiSequence :=
  if isEmojiModifier code then some .modifier
  else if isFlagLetter code then some .flagLetter
  else if emojiRanges.covers code then some .emoji
  else none

/-- The columns of a character that belongs to a sequence, and what of the sequence has been read
with it. Of flags before a joiner only a whole one is joined, so the first letter of a pair takes
back the column of the second, and the next letter gives both back. -/
def before? (s : EmojiSequence) (code : Nat) : Option (Int × EmojiSequence) :=
  match s with
  | .emoji => joiner
  | .modifier => if emojiModifierBaseRanges.covers code then some (0, .emoji) else joiner
  | .flagLetter => if isFlagLetter code then some (1, .flagLetters) else none
  | .flagLetters => if isFlagLetter code then some (1, .flagLetters) else joiner
  | .joined =>
    if code = 0x20E3 then some (0, .joinedKeycap)
    else if code = 0xE007F then some (0, .tagLetters 0)
    else
      match of? code with
      | some .flagLetter => some (1, .joinedLetter)
      | some s => some (0, s)
      | none => none
  | .joinedKeycap => none
  | .joinedLetter => if isFlagLetter code then some (-1, .joinedLetters true) else none
  | .joinedLetters even =>
    if isFlagLetter code then some (if even then 3 else -1, .joinedLetters !even) else joiner
  | .tagLetters count =>
    if isTagLetter code ∧ count < 6 then some (0, .tagLetters (count + 1))
    else if isTagDigit code ∧ count ≤ 4 then some (0, .tagDigits 1)
    else if isBlackFlag ∧ 3 ≤ count then some (0, .emoji)
    else none
  | .tagDigits count =>
    if isTagDigit code ∧ count < 3 then some (0, .tagDigits (count + 1))
    else if isBlackFlag ∧ count = 3 then some (0, .emoji)
    else none
where
  /-- A joiner, which joins any emoji before it. -/
  joiner : Option (Int × EmojiSequence) := if code = 0x200D then some (0, .joined) else none
  /-- The flag that tags turn into that of a region. -/
  isBlackFlag : Bool := code == 0x1F3F4

end EmojiSequence
end Interpolation.Text
