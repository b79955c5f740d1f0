import Interpolation.Text.WidthTable

/-!
# Ligatures

Letters that are drawn as one and take fewer columns than each by itself. A text is read from its
end, so a ligature is known by its last letter, and the letters before that complete it.
-/

namespace Interpolation.Text

/-- What a ligature can end with. -/
inductive LastLetter where
  /-- An Arabic alef, after a lam. -/
  | alef
  /-- A Hebrew lamed, after an alef and a joiner. -/
  | lamed
  /-- A Khmer letter, after the coeng that puts it below another. -/
  | khmer
  /-- A Buginese ya, after the vowel i and a joiner. -/
  | ya
  /-- A Buginese vowel i with a ya behind it, after the letter a. -/
  | vowel
  /-- A Tifinagh consonant, after another and a joiner. -/
  | consonant
  /-- A Tifinagh consonant with the consonant joiner before it, after another consonant. -/
  | biconsonant
  /-- A Lisu tone letter of the second kind, after one of the first. -/
  | tone
  /-- An Old Turkic i, after a ney and a joiner. -/
  | orkhon
  deriving DecidableEq

/-- The end of a ligature, with a joiner before it or not. -/
structure Ligature where
  letter : LastLetter
  joined : Bool
  deriving DecidableEq

def isTifinaghConsonant (code : Nat) : Bool := 0x2D31 ≤ code && code ≤ 0x2D65 || code == 0x2D6F

/-- The character takes no column and does not keep Arabic letters from being joined. -/
def isTransparent (code : Nat) : Bool :=
  zeroWidthRanges.covers code && !nonTransparentRanges.covers code

/-- The last letter of a ligature that a character can be. -/
def LastLetter.of? (code : Nat) : Option LastLetter :=
  if alefRanges.covers code then some .alef
  else if code = 0x05DC then some .lamed
  else if khmerSubscriptRanges.covers code then some .khmer
  else if code = 0x1A10 then some .ya
  else if isTifinaghConsonant code then some .consonant
  else if code = 0xA4FC ∨ code = 0xA4FD then some .tone
  else if code = 0x10C03 then some .orkhon
  else none

namespace Ligature

/-- The columns that a letter takes before the end of a ligature, and the end of the ligature that
is still to be completed, if it is. A letter may take back columns that were counted for those after
it. -/
def letterBefore? (l : Ligature) (code : Nat) : Option (Int × Option LastLetter) :=
  match l.letter with
  | .alef => if lamRanges.covers code then some (0, none) else none
  | .lamed => if l.joined ∧ code = 0x05D0 then some (0, none) else none
  | .khmer => if code = 0x17D2 then some (-1, none) else none
  | .ya => if l.joined ∧ code = 0x1A17 then some (0, some .vowel) else none
  | .vowel => if code = 0x1A15 then some (0, none) else none
  | .consonant =>
    if code = 0x2D7F then some (1, some .biconsonant)
    else if l.joined ∧ isTifinaghConsonant code then some (0, none)
    else none
  | .biconsonant => if isTifinaghConsonant code then some (-1, none) else none
  | .tone => if 0xA4F8 ≤ code ∧ code ≤ 0xA4FB then some (0, none) else none
  | .orkhon => if l.joined ∧ code = 0x10C32 then some (0, none) else none

/-- The end of a ligature with a mark before it that leaves it as it is. In Arabic these are all
transparent characters, elsewhere marks to be ignored and the joiner. -/
def markBefore? (l : Ligature) (code : Nat) : Option Ligature :=
  if l.letter = .alef then if isTransparent code then some l else none
  else if code = 0x200D then some { l with joined := true }
  else if ignorableMarkRanges.covers code then some l
  else none

/-- The columns of a character that belongs to a ligature, and the end that is still to be
completed. -/
def before? (l : Ligature) (code : Nat) : Option (Int × Option Ligature) :=
  match l.markBefore? code with
  | some l => some (0, some l)
  | none => (l.letterBefore? code).map fun (columns, last) => (columns, last.map (⟨·, false⟩))

end Ligature
end Interpolation.Text
