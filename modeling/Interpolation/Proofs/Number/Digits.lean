import Interpolation.Number.Integer

/-!
# Digits that are read into a word

Each of them takes a product and a sum, and both have to be words. The number only grows by the
digits that follow, so what is out of range at one of them stays out of range, and what is in range
at the end was so all along. Hence the word is that of the exact number, and it is missing exactly
if that number is out of range (`readDigits?_eq`).
-/

namespace Interpolation.Number

variable {negative : Bool} {n : Int64} {size : Nat}

/-- The number of the given `size`, with a minus sign or not. -/
def signed (negative : Bool) (size : Nat) : Int := if negative then -size else size

theorem signed_add (negative : Bool) (size units : Nat) :
    signed negative (size + units) =
      if negative then signed negative size - units else signed negative size + units := by
  cases negative with
  | false => exact Int.natCast_add ..
  | true =>
    simp only [signed, if_true]
    omega

/-- A number that is out of range is so too if it is greater in size. -/
theorem toInt64?_signed_of_le {size' : Nat} (hle : size ≤ size')
    (h : toInt64? (signed negative size) = none) :
    toInt64? (signed negative size') = none := by
  rw [← Option.not_isSome_iff_eq_none, isSome_toInt64?, Int64.toInt_minValue,
    Int64.toInt_maxValue] at h ⊢
  cases negative with
  | false =>
    simp only [signed, Bool.false_eq_true, if_false] at h ⊢
    omega
  | true =>
    simp only [signed, if_true] at h ⊢
    omega

/-- **`appendDigit?` appends a digit exactly or not at all.** -/
theorem appendDigit?_eq (h : n.toInt = signed negative size) (digit : Char) :
    appendDigit? negative n digit =
      toInt64? (signed negative (10 * size + (digit.toNat - '0'.toNat))) := by
  have htens : n.toInt * 10 = signed negative (10 * size) := by
    rw [h]
    unfold signed
    split <;> omega
  rw [appendDigit?, htens]
  cases ht : toInt64? (signed negative (10 * size)) with
  | none => exact (toInt64?_signed_of_le (Nat.le_add_right ..) ht).symm
  | some tens =>
    rw [signed_add, ← toInt64?_eq_some.1 ht]
    rfl

/-- **More digits are read exactly or not at all**, whatever number was read before them. -/
theorem foldlM_appendDigit? (digits : List Char) (h : n.toInt = signed negative size) :
    digits.foldlM (appendDigit? negative) n =
      toInt64? (signed negative (Nat.ofDigitChars 10 digits size)) := by
  induction digits generalizing n size with
  | nil => exact (toInt64?_eq_some.2 h).symm
  | cons digit digits ih =>
    rw [List.foldlM_cons, appendDigit?_eq h, Nat.ofDigitChars_cons]
    generalize 10 * size + (digit.toNat - '0'.toNat) = next
    cases hnext : toInt64? (signed negative next) with
    | some m => exact ih (toInt64?_eq_some.1 hnext)
    | none =>
      have hle : next ≤ Nat.ofDigitChars 10 digits next := by
        rw [Nat.ofDigitChars_eq_ofDigitChars_zero]
        exact Nat.le_trans (Nat.le_mul_of_pos_left next (Nat.pow_pos (by decide)))
          (Nat.le_add_right ..)
      exact (toInt64?_signed_of_le hle hnext).symm

/-- **`readDigits?` reads digits into the word of their exact number**, if there is one. -/
theorem readDigits?_eq (negative : Bool) (digits : List Char) :
    readDigits? negative digits = toInt64? (signed negative (Nat.ofDigitChars 10 digits 0)) :=
  foldlM_appendDigit? digits (by cases negative <;> rfl)

theorem readDigits?_eq_some {digits : List Char} :
    readDigits? negative digits = some n ↔
    n.toInt = signed negative (Nat.ofDigitChars 10 digits 0) := by
  rw [readDigits?_eq, toInt64?_eq_some]

end Interpolation.Number
