/-!
# Delimiters

The pair of texts that a sigil stands between.
-/

namespace Interpolation

/-- An opening and a closing delimiter, which are not empty and differ. -/
structure Delimiters where
  opening : List Char
  closing : List Char
  opening_ne_nil : opening ≠ []
  closing_ne_nil : closing ≠ []
  opening_ne_closing : opening ≠ closing
  deriving DecidableEq

namespace Delimiters

/-- The pair, if it can delimit sigils. -/
def of? (opening closing : String) : Option Delimiters :=
  if h : opening.toList ≠ [] ∧ closing.toList ≠ [] ∧ opening.toList ≠ closing.toList then
    some ⟨opening.toList, closing.toList, h.1, h.2.1, h.2.2⟩
  else none

def square : Delimiters := ⟨['['], [']'], by simp, by simp, by simp⟩

instance : Inhabited Delimiters := ⟨square⟩

end Delimiters
end Interpolation
