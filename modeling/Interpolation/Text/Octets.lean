import Interpolation.Text.Classes

/-!
# Texts and the bytes of their UTF-8

Reading never fails: where the bytes stop being UTF-8, the longest part that could still have become
a character, or else one byte, is read as one replacement character.
-/

namespace Interpolation.Text

def octets (s : String) : List UInt8 := s.toUTF8.toList

/-- The character that stands for bytes that are not UTF-8. -/
def replacement : Char := '\uFFFD'

/-- A character of which some bytes have been read: its bits so far and the ranges of the bytes due.
-/
structure Unfinished where
  bits : Nat
  due : Ranges

/-- The ranges of the bytes due after a first byte, for each range of first bytes. No range admits
an overlong form, a surrogate or a code point past the last one. -/
def multibyte : List ((Nat × Nat) × Ranges) :=
  let any := (0x80, 0xBF)
  [((0xC2, 0xDF), [any]),
   ((0xE0, 0xE0), [(0xA0, 0xBF), any]),
   ((0xE1, 0xEC), [any, any]),
   ((0xED, 0xED), [(0x80, 0x9F), any]),
   ((0xEE, 0xEF), [any, any]),
   ((0xF0, 0xF0), [(0x90, 0xBF), any, any]),
   ((0xF1, 0xF3), [any, any, any]),
   ((0xF4, 0xF4), [(0x80, 0x8F), any, any])]

/-- Reads the first byte of a character: the characters complete with it, and what is
`Unfinished`. -/
def readFirst (b : Nat) : List Char × Option Unfinished :=
  if b < 0x80 then ([Char.ofNat b], none)
  else
    match multibyte.find? fun ((first, last), _) => first ≤ b && b ≤ last with
    | some ((_, _), due) => ([], some ⟨b % (1 <<< (6 - due.length)), due⟩)
    | none => ([replacement], none)

/-- Reads one more byte. A byte that cannot go on with the unfinished character begins another. -/
def readNext (unfinished : Option Unfinished) (b : Nat) : List Char × Option Unfinished :=
  match unfinished with
  | none => readFirst b
  | some ⟨_, []⟩ => readFirst b
  | some ⟨bits, (first, last) :: due⟩ =>
    if first ≤ b && b ≤ last then
      let bits := bits * 64 + b % 64
      if due.isEmpty then ([Char.ofNat bits], none) else ([], some ⟨bits, due⟩)
    else
      let (cs, unfinished) := readFirst b
      (replacement :: cs, unfinished)

def readOctetsFrom (unfinished : Option Unfinished) : List UInt8 → List Char
  | [] => if unfinished.isSome then [replacement] else []
  | b :: bs =>
    let (cs, unfinished) := readNext unfinished b.toNat
    cs ++ readOctetsFrom unfinished bs

def readOctets (bs : List UInt8) : String := String.ofList (readOctetsFrom none bs)

end Interpolation.Text
