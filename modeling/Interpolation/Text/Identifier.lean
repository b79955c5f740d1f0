import Interpolation.Text.IdentifierTable

/-!
# Identifiers

Which characters make an identifier is up to a rule (`IdentifierRule`) that takes letters and
digits, but no digit at the beginning, and none of the marks that tokens are told apart by. The rule
that the program runs with is the Unicode default rule (`unicodeIdentifiers`), with the underscore
as a further first character.
-/

namespace Interpolation.Text

/-- Blanks, quotes and operators of sigils. -/
def marks : List Char := [' ', '\t', '\n', '\r', '\'', '"', '.', '=', '-']

/-- A rule for identifiers. -/
class IdentifierRule where
  startsIdentifier : Char → Bool
  continuesIdentifier : Char → Bool
  continuesIdentifier_of_startsIdentifier {c : Char} :
    startsIdentifier c = true → continuesIdentifier c = true
  continuesIdentifier_of_isDigit {c : Char} : c.isDigit = true → continuesIdentifier c = true
  startsIdentifier_of_isAlpha {c : Char} : c.isAlpha = true → startsIdentifier c = true
  isDigit_of_startsIdentifier {c : Char} : startsIdentifier c = true → c.isDigit = false
  continuesIdentifier_of_mem_marks {c : Char} : c ∈ marks → continuesIdentifier c = false

export IdentifierRule (startsIdentifier continuesIdentifier continuesIdentifier_of_startsIdentifier
  continuesIdentifier_of_isDigit startsIdentifier_of_isAlpha isDigit_of_startsIdentifier
  continuesIdentifier_of_mem_marks)

namespace Unicode

def startsIdentifier (c : Char) : Bool :=
  c == '_' || if c.toNat < 0x80 then c.isAlpha else identifierStart.covers c.toNat

def continuesIdentifier (c : Char) : Bool :=
  if c.toNat < 0x80 then c.isAlphanum || c == '_'
  else identifierStart.covers c.toNat || identifierFollow.covers c.toNat

theorem continuesIdentifier_of_startsIdentifier {c : Char} (h : startsIdentifier c = true) :
    continuesIdentifier c = true := by
  unfold startsIdentifier at h
  unfold continuesIdentifier
  split <;> rename_i hc
  · simp only [if_pos hc, Bool.or_eq_true] at h
    simp only [Char.isAlphanum, Bool.or_eq_true]
    exact h.elim .inr fun h => .inl (.inl h)
  · simp only [if_neg hc, Bool.or_eq_true, beq_iff_eq] at h
    rcases h with rfl | h
    · exact absurd (by decide) hc
    · simp [h]

theorem continuesIdentifier_of_isDigit {c : Char} (h : c.isDigit = true) :
    continuesIdentifier c = true := by
  have hlast : c.toNat ≤ 57 := (Char.isDigit_iff_toNat.1 h).2
  have hc : c.toNat < 0x80 := by omega
  simp [continuesIdentifier, hc, Char.isAlphanum, h]

theorem startsIdentifier_of_isAlpha {c : Char} (h : c.isAlpha = true) :
    startsIdentifier c = true := by
  have hc : c.toNat < 0x80 := by
    rcases (Bool.or_eq_true ..).mp h with h | h
    · have hlast : c.toNat ≤ 90 := (of_decide_eq_true h).2
      omega
    · have hlast : c.toNat ≤ 122 := of_decide_eq_true (Bool.and_eq_true_iff.1 h).2
      omega
  rw [startsIdentifier, if_pos hc, h, Bool.or_true]

theorem isDigit_of_startsIdentifier {c : Char} (h : startsIdentifier c = true) :
    c.isDigit = false := by
  refine Bool.eq_false_iff.2 fun hd => ?_
  obtain ⟨hl, hu⟩ : 48 ≤ c.toNat ∧ c.toNat ≤ 57 := Char.isDigit_iff_toNat.1 hd
  have hc : c.toNat < 0x80 := by omega
  have hne : c ≠ '_' := by
    rintro rfl
    exact absurd hd (by decide)
  have hletter : c.isUpper = true ∨ c.isLower = true := by
    rw [startsIdentifier, beq_eq_false_iff_ne.2 hne, Bool.false_or, if_pos hc] at h
    exact (Bool.or_eq_true ..).mp h
  rcases hletter with h | h
  · have : 65 ≤ c.toNat := (of_decide_eq_true h).1
    omega
  · have : 97 ≤ c.toNat := of_decide_eq_true (Bool.and_eq_true_iff.1 h).1
    omega

theorem continuesIdentifier_of_mem_marks : ∀ c ∈ marks, continuesIdentifier c = false := by
  have hmarks : marks.all (fun c => !continuesIdentifier c) = true := rfl
  simpa using hmarks

end Unicode

/-- The Unicode default rule, by the tables `identifierStart` and `identifierFollow`. -/
instance unicodeIdentifiers : IdentifierRule where
  startsIdentifier := Unicode.startsIdentifier
  continuesIdentifier := Unicode.continuesIdentifier
  continuesIdentifier_of_startsIdentifier := Unicode.continuesIdentifier_of_startsIdentifier
  continuesIdentifier_of_isDigit := Unicode.continuesIdentifier_of_isDigit
  startsIdentifier_of_isAlpha := Unicode.startsIdentifier_of_isAlpha
  isDigit_of_startsIdentifier := Unicode.isDigit_of_startsIdentifier
  continuesIdentifier_of_mem_marks := Unicode.continuesIdentifier_of_mem_marks _

end Interpolation.Text
