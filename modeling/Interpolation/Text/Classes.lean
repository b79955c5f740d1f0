/-!
# Classes of characters

Classes of characters, given by tables of ranges of code points. Blanks are one of them, and texts
are trimmed and cut into words at blanks.
-/

namespace Interpolation.Text

/-- Closed ranges of code points, in increasing order. -/
abbrev Ranges := List (Nat × Nat)

/-- Some range of the table holds the code point. -/
def Ranges.covers (table : Ranges) (code : Nat) : Bool :=
  table.any fun (first, last) => first ≤ code && code ≤ last

theorem Ranges.covers_iff {table : Ranges} {code : Nat} :
    table.covers code = true ↔ ∃ range ∈ table, range.1 ≤ code ∧ code ≤ range.2 := by
  simp [covers]

/-- The Unicode property `White_Space`. -/
def blankRanges : Ranges :=
  [(0x09, 0x0D), (0x20, 0x20), (0x85, 0x85), (0xA0, 0xA0), (0x1680, 0x1680), (0x2000, 0x200A),
   (0x2028, 0x2029), (0x202F, 0x202F), (0x205F, 0x205F), (0x3000, 0x3000)]

def isBlank (c : Char) : Bool := blankRanges.covers c.toNat

def trim (cs : List Char) : List Char :=
  ((cs.dropWhile isBlank).reverse.dropWhile isBlank).reverse

/-- The words of a text of which `word` has been read already, last character first. -/
def wordsFrom (word : List Char) : List Char → List (List Char)
  | [] => if word.isEmpty then [] else [word.reverse]
  | c :: cs =>
    if isBlank c then
      if word.isEmpty then wordsFrom [] cs else word.reverse :: wordsFrom [] cs
    else wordsFrom (c :: word) cs

/-- The longest runs of characters that are not blank, in order. -/
def words (cs : List Char) : List (List Char) := wordsFrom [] cs

end Interpolation.Text
