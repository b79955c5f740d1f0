import Interpolation.Text.EmojiSequence
import Interpolation.Text.Ligature

/-!
# Display width

The columns of a terminal that a text takes (`DisplayWidth`). Of blanks, bars and digits each takes
one. The program runs with the widths of Unicode (`unicodeWidth`): a character takes up to three
columns by itself, and some characters are drawn as one: emoji sequences, ligatures, and characters
with a variation selector. That width is read from the end of the text, since what a character takes
depends on what follows it.
-/

namespace Interpolation.Text

/-- The columns that a text takes. -/
class DisplayWidth where
  width : List Char → Nat
  width_eq_length {cs : List Char} : (∀ c ∈ cs, c = ' ' ∨ c = '|' ∨ c.isDigit = true) →
    width cs = cs.length

export DisplayWidth (width width_eq_length)

namespace Unicode

/-- What of the rest of a text joins with the characters before it. -/
inductive Ahead where
  | nothing
  | emoji (s : EmojiSequence)
  | ligature (l : Ligature)
  deriving DecidableEq

/-- The form that a variation selector asks for. -/
inductive Presentation where
  | emoji
  | text
  deriving DecidableEq

/-- The rest of a text, as far as it matters to the character before it: the selector that it begins
with, if it does, and what joins. -/
structure Rest where
  selector : Option Presentation
  ahead : Ahead
  deriving DecidableEq

/-- The width of a character by itself. A line feed ends its line and takes no column; other control
characters take one. The Khmer sign beyyal takes three. -/
def charWidth (c : Char) : Nat :=
  if c = '\n' then 0
  else if c.toNat ≤ 0xA0 then 1
  else if c = '\u17D8' then 3
  else if zeroWidthRanges.covers c.toNat then 0
  else if wideRanges.covers c.toNat then 2
  else 1

namespace Ahead

/-- What a character that joins with nothing after it begins. -/
def of (c : Char) : Ahead :=
  match EmojiSequence.of? c.toNat with
  | some s => .emoji s
  | none =>
    match LastLetter.of? c.toNat with
    | some letter => .ligature ⟨letter, false⟩
    | none => .nothing

/-- The columns of a character that joins with what is `ahead` of it, and what it begins. -/
def before? (ahead : Ahead) (c : Char) : Option (Int × Ahead) :=
  match ahead with
  | .nothing => none
  | .emoji s => (s.before? c.toNat).map fun (columns, s) => (columns, .emoji s)
  | .ligature l =>
    (l.before? c.toNat).map fun (columns, l) => (columns, (l.map Ahead.ligature).getD .nothing)

/-- What still joins once a selector comes before it. The emoji selector goes on with an emoji that
is joined, and neither selector breaks a ligature. -/
def select (p : Presentation) (ahead : Ahead) : Ahead :=
  match p, ahead with
  | _, .ligature l => .ligature l
  | .emoji, .emoji .joined => .emoji .joined
  | .emoji, .emoji .joinedKeycap => .emoji .joinedKeycap
  | _, _ => .nothing

/-- What still joins if the character before the emoji selector has no such form. -/
def withoutEmoji : Ahead → Ahead
  | .emoji _ => .nothing
  | ahead => ahead

end Ahead

/-- The columns of a character without the emoji form that `selector` asks for, and the rest of the
text from it on. -/
def plainBefore (c : Char) (selector : Option Presentation) (ahead : Ahead) : Int × Rest :=
  if c = '\uFE0F' then (0, ⟨some .emoji, ahead.select .emoji⟩)
  else if c = '\uFE0E' then (0, ⟨some .text, ahead.select .text⟩)
  else if selector = some .text ∧ textVariationRanges.covers c.toNat then (1, ⟨none, .nothing⟩)
  else
    match ahead.before? c with
    | some (columns, ahead) => (columns, ⟨none, ahead⟩)
    | none => (charWidth c, ⟨none, .of c⟩)

/-- The columns of a character before `rest` of a text, and the rest from it on. -/
def widthBefore (c : Char) (rest : Rest) : Int × Rest :=
  match rest with
  | ⟨some .emoji, ahead⟩ =>
    if emojiVariationRanges.covers c.toNat then
      (if ahead matches .emoji _ then 0 else 2, ⟨none, .emoji .emoji⟩)
    else plainBefore c none ahead.withoutEmoji
  | ⟨selector, ahead⟩ => plainBefore c selector ahead

/-- The columns of a text, and the text as the rest of a longer one. -/
def measure : List Char → Int × Rest
  | [] => (0, ⟨none, .nothing⟩)
  | c :: cs =>
    let (columns, rest) := measure cs
    let (own, rest) := widthBefore c rest
    (own + columns, rest)

def width (cs : List Char) : Nat := (measure cs).1.toNat

/-! ## Narrow characters -/

variable {cs : List Char}

/-- The character takes one column and joins with nothing. -/
structure IsNarrow (c : Char) : Prop where
  width : charWidth c = 1
  ahead : Ahead.of c = .nothing
  not_selector : c ≠ '\uFE0F' ∧ c ≠ '\uFE0E'

theorem covers_eq_false {table : Ranges} {code bound : Nat} (hcode : code < bound)
    (htable : ∀ range ∈ table, bound ≤ range.1) : table.covers code = false := by
  refine Bool.eq_false_iff.2 fun h => ?_
  obtain ⟨range, hmem, hle, -⟩ := Ranges.covers_iff.1 h
  exact absurd (htable range hmem) (by omega)

/-- The printable characters of ASCII are narrow. -/
theorem isNarrow_of_le {c : Char} (hfirst : 0x20 ≤ c.toNat) (hlast : c.toNat < 0x7F) :
    IsNarrow c where
  width := by
    have hfeed : c ≠ '\n' := by
      rintro rfl
      exact absurd hfirst (by decide)
    rw [charWidth, if_neg hfeed, if_pos (by omega)]
  ahead := by
    have hne (code : Nat) (hcode : 0x7F ≤ code) : c.toNat ≠ code := by omega
    have hcovers {table : Ranges} (htable : ∀ range ∈ table, 0x7F ≤ range.1) :
        table.covers c.toNat = false :=
      covers_eq_false hlast htable
    have hemoji : EmojiSequence.of? c.toNat = none := by
      have hmodifier : isEmojiModifier c.toNat = false := by simp [isEmojiModifier]; omega
      have hflag : isFlagLetter c.toNat = false := by simp [isFlagLetter]; omega
      rw [EmojiSequence.of?, hmodifier, hflag, hcovers (by decide)]
      rfl
    have hletter : LastLetter.of? c.toNat = none := by
      have htifinagh : isTifinaghConsonant c.toNat = false := by simp [isTifinaghConsonant]; omega
      rw [LastLetter.of?, htifinagh, hcovers (by decide), hcovers (by decide)]
      simp [hne]
    rw [Ahead.of, hemoji, hletter]
  not_selector := by
    constructor
    all_goals
      rintro rfl
      exact absurd hlast (by decide)

theorem isNarrow_of_isDigit {c : Char} (h : c.isDigit = true) : IsNarrow c := by
  obtain ⟨hfirst, hlast⟩ := Char.isDigit_iff_toNat.1 h
  exact isNarrow_of_le (Nat.le_trans (by decide) hfirst) (Nat.lt_of_le_of_lt hlast (by decide))

theorem measure_of_isNarrow (h : ∀ c ∈ cs, IsNarrow c) :
    measure cs = ((cs.length : Int), ⟨none, .nothing⟩) := by
  induction cs with
  | nil => rfl
  | cons c cs ih =>
    obtain ⟨hc, hcs⟩ := List.forall_mem_cons.1 h
    rw [measure, ih hcs]
    simp [widthBefore, plainBefore, Ahead.before?, hc.not_selector, hc.width,
      hc.ahead, Int.add_comm]

theorem width_of_isNarrow (h : ∀ c ∈ cs, IsNarrow c) : width cs = cs.length := by
  rw [width, measure_of_isNarrow h]
  rfl

theorem width_eq_length (h : ∀ c ∈ cs, c = ' ' ∨ c = '|' ∨ c.isDigit = true) :
    width cs = cs.length := by
  refine width_of_isNarrow fun c hc => ?_
  rcases h c hc with rfl | rfl | hdigit
  · exact isNarrow_of_le (by decide) (by decide)
  · exact isNarrow_of_le (by decide) (by decide)
  · exact isNarrow_of_isDigit hdigit

end Unicode

/-- The widths of Unicode, by `measure`. -/
instance unicodeWidth : DisplayWidth where
  width := Unicode.width
  width_eq_length := Unicode.width_eq_length

end Interpolation.Text
