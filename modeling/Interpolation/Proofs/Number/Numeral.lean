import Interpolation.Number.Integer
import Interpolation.Proofs.Text.Runs
import Interpolation.Text.Classes
import Interpolation.Text.Identifier

/-!
# Numerals

A numeral is one or more digits after an optional sign. Numerals and no other texts are read as
integers (`readInteger?_eq_some_iff`), and an integer is written as one that stands for it
(`isNumeral_writeInteger`). Trimming takes the blanks around a numeral and leaves the numeral
(`IsNumeral.trim`).
-/

namespace Interpolation

open Text

variable {before cs after : List Char} {i j : Int}

/-! ## Trimming -/

/-- **The blanks around a text are trimmed**, and no more if the text neither begins nor ends with
one. -/
theorem Text.trim_append (hbefore : ∀ c ∈ before, isBlank c = true)
    (hafter : ∀ c ∈ after, isBlank c = true) (hne : cs ≠ [])
    (hhead : ∀ c ∈ cs.head?, isBlank c = false) (hlast : ∀ c ∈ cs.getLast?, isBlank c = false) :
    trim (before ++ cs ++ after) = cs := by
  have hfront : ∀ c ∈ (cs ++ after).head?, isBlank c = false := by
    obtain ⟨c, cs, rfl⟩ := List.exists_cons_of_ne_nil hne
    exact hhead
  have hback : ∀ c ∈ cs.reverse.head?, isBlank c = false := by
    rw [List.head?_reverse]
    exact hlast
  rw [trim, List.append_assoc, dropWhile_run hbefore hfront, List.reverse_append,
    dropWhile_run (fun c hc => hafter c (List.mem_reverse.1 hc)) hback, List.reverse_reverse]

namespace Number

/-! ## Numerals -/

/-- The text is a numeral, which stands for the integer. -/
inductive IsNumeral : List Char → Int → Prop where
  | digits {cs : List Char} (hne : cs ≠ []) (hcs : ∀ c ∈ cs, c.isDigit = true) :
    IsNumeral cs (Nat.ofDigitChars 10 cs 0)
  | plus {cs : List Char} (hne : cs ≠ []) (hcs : ∀ c ∈ cs, c.isDigit = true) :
    IsNumeral ('+' :: cs) (Nat.ofDigitChars 10 cs 0)
  | minus {cs : List Char} (hne : cs ≠ []) (hcs : ∀ c ∈ cs, c.isDigit = true) :
    IsNumeral ('-' :: cs) (-(Nat.ofDigitChars 10 cs 0 : Int))

theorem readNatural?_eq_some_iff {n : Nat} :
    readNatural? cs = some n ↔ cs ≠ [] ∧ (∀ c ∈ cs, c.isDigit = true) ∧
    Nat.ofDigitChars 10 cs 0 = n := by
  simp only [readNatural?, Option.ite_none_right_eq_some, List.all_eq_true,
    Option.some.injEq, and_assoc]

/-- A digit is no sign. -/
theorem ne_of_isDigit {c : Char} (h : c.isDigit = true) : c ≠ '-' ∧ c ≠ '+' := by
  constructor <;> rintro rfl <;> exact absurd h (by decide)

theorem readInteger?_of_isDigit (h : ∀ c ∈ cs, c.isDigit = true) :
    readInteger? cs = (readNatural? cs).map Int.ofNat := by
  unfold readInteger?
  split
  · exact absurd rfl (ne_of_isDigit (h '-' List.mem_cons_self)).1
  · exact absurd rfl (ne_of_isDigit (h '+' List.mem_cons_self)).2
  · rfl

/-- **`readInteger?` reads numerals, and nothing else.** -/
theorem readInteger?_eq_some_iff : readInteger? cs = some i ↔ IsNumeral cs i := by
  constructor
  · intro h
    unfold readInteger? at h
    split at h <;> obtain ⟨n, hn, rfl⟩ := Option.map_eq_some_iff.1 h <;>
      obtain ⟨hne, hcs, rfl⟩ := readNatural?_eq_some_iff.1 hn
    · exact .minus hne hcs
    · exact .plus hne hcs
    · exact .digits hne hcs
  · rintro (⟨hne, hcs⟩ | ⟨hne, hcs⟩ | ⟨hne, hcs⟩)
    · rw [readInteger?_of_isDigit hcs, readNatural?_eq_some_iff.2 ⟨hne, hcs, rfl⟩]
      rfl
    · rw [readInteger?, readNatural?_eq_some_iff.2 ⟨hne, hcs, rfl⟩]
      rfl
    · rw [readInteger?, readNatural?_eq_some_iff.2 ⟨hne, hcs, rfl⟩]
      rfl

/-- `writeInteger` writes an integer as a numeral that stands for it. -/
theorem isNumeral_writeInteger (i : Int) : IsNumeral (writeInteger i) i :=
  readInteger?_eq_some_iff.1 (readInteger?_writeInteger i)

theorem readInt64?_of_isNumeral {n : Int64} (h : IsNumeral cs n.toInt) :
    readInt64? cs = some n := by
  rw [readInt64?, readInteger?_eq_some_iff.2 h]
  exact toInt64?_eq_some.2 rfl

namespace IsNumeral

theorem ne_nil (h : IsNumeral cs i) : cs ≠ [] := by
  cases h with
  | digits hne => exact hne
  | plus | minus => exact List.cons_ne_nil _ _

theorem isBlank_eq_false (h : IsNumeral cs i) : ∀ c ∈ cs, isBlank c = false := by
  have hdigit {c : Char} (hc : c.isDigit = true) : isBlank c = false := by
    obtain ⟨hl, hu⟩ : 48 ≤ c.toNat ∧ c.toNat ≤ 57 := Char.isDigit_iff_toNat.1 hc
    refine Bool.eq_false_iff.2 fun hblank => ?_
    obtain ⟨range, hmem, hbounds⟩ := Ranges.covers_iff.1 hblank
    simp only [blankRanges, List.mem_cons, List.not_mem_nil, or_false] at hmem
    rcases hmem with rfl | rfl | rfl | rfl | rfl | rfl | rfl | rfl | rfl | rfl <;>
      dsimp only at hbounds <;> omega
  cases h with
  | digits _ hcs => exact fun c hc => hdigit (hcs c hc)
  | plus _ hcs | minus _ hcs =>
    exact List.forall_mem_cons.2 ⟨by decide, fun c hc => hdigit (hcs c hc)⟩

/-- Blanks around a numeral are trimmed. -/
theorem trim (h : IsNumeral cs i) (hbefore : ∀ c ∈ before, isBlank c = true)
    (hafter : ∀ c ∈ after, isBlank c = true) :
    Text.trim (before ++ cs ++ after) = cs :=
  trim_append hbefore hafter h.ne_nil (fun c hc => h.isBlank_eq_false c (List.mem_of_head? hc))
    fun c hc => h.isBlank_eq_false c (List.mem_of_getLast? hc)

end IsNumeral
end Number
end Interpolation
