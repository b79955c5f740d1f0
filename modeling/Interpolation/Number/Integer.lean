/-!
# Integers as text and as 64-bit words

Writing and reading are inverse (`readInteger?_writeInteger`), and a number becomes a word exactly
if it is in range (`isSome_toInt64?`).
-/

namespace Interpolation.Number

/-- The decimal digits of a number, after a minus sign if it is negative. -/
def writeInteger (i : Int) : List Char :=
  if i < 0 then '-' :: Nat.toDigits 10 i.natAbs else Nat.toDigits 10 i.natAbs

/-- The value of a text of one or more digits. -/
def readNatural? (cs : List Char) : Option Nat :=
  if cs ≠ [] ∧ cs.all Char.isDigit then some (Nat.ofDigitChars 10 cs 0) else none

/-- The value of one or more digits after an optional sign. -/
def readInteger? (cs : List Char) : Option Int :=
  match cs with
  | '-' :: cs => (readNatural? cs).map fun n : Nat => -(n : Int)
  | '+' :: cs => (readNatural? cs).map Int.ofNat
  | cs => (readNatural? cs).map Int.ofNat

/-- The word that holds the number, if there is one. -/
def toInt64? (i : Int) : Option Int64 :=
  let n := Int64.ofInt i
  if n.toInt = i then some n else none

/-- The word that a text stands for (`readInteger?`), if it is in range (`toInt64?`). -/
def readInt64? (cs : List Char) : Option Int64 := (readInteger? cs).bind toInt64?

/-- The word for `n` with one more digit. A negative number goes down by its digits. The product and
the sum are words themselves, or there is none. -/
def appendDigit? (negative : Bool) (n : Int64) (digit : Char) : Option Int64 := do
  let tens ← toInt64? (n.toInt * 10)
  let units := digit.toNat - '0'.toNat
  toInt64? (if negative then tens.toInt - units else tens.toInt + units)

/-- The word that digits stand for, with a minus sign before them or not, by `appendDigit?` one
after the other. -/
def readDigits? (negative : Bool) (digits : List Char) :
    Option Int64 := digits.foldlM (appendDigit? negative) 0

def writeInt64 (n : Int64) : String := String.ofList (writeInteger n.toInt)

theorem readNatural?_toDigits (n : Nat) : readNatural? (Nat.toDigits 10 n) = some n := by
  rw [readNatural?, if_pos, Nat.ofDigitChars_ten_toDigits]
  refine ⟨Nat.toDigits_ne_nil, List.all_eq_true.2 fun c hc => ?_⟩
  exact Nat.isDigit_of_mem_toDigits (by decide) (by decide) hc

theorem readInteger?_writeInteger (i : Int) : readInteger? (writeInteger i) = some i := by
  unfold writeInteger
  split <;> rename_i hi
  · rw [readInteger?, readNatural?_toDigits, Option.map_some, Option.some.injEq]
    omega
  · have hd : ∀ c cs, Nat.toDigits 10 i.natAbs = c :: cs → c.isDigit := fun c cs h =>
      Nat.isDigit_of_mem_toDigits (b := 10) (by decide) (by decide) (h ▸ List.mem_cons_self)
    unfold readInteger?
    split
    · next h => exact absurd (hd _ _ h) (by decide)
    · next h => exact absurd (hd _ _ h) (by decide)
    · rw [readNatural?_toDigits, Option.map_some, Option.some.injEq, Int.ofNat_eq_natCast]
      omega

theorem toInt64?_eq_some {i : Int} {n : Int64} : toInt64? i = some n ↔ n.toInt = i := by
  simp only [toInt64?, Option.ite_none_right_eq_some, Option.some.injEq]
  constructor
  · rintro ⟨h, rfl⟩
    exact h
  · rintro rfl
    simp

/-- A word holds a number exactly if the number is in its range. -/
theorem isSome_toInt64? {i : Int} :
    (toInt64? i).isSome ↔ Int64.minValue.toInt ≤ i ∧ i ≤ Int64.maxValue.toInt := by
  simp only [Option.isSome_iff_exists, toInt64?_eq_some]
  constructor
  · rintro ⟨n, rfl⟩
    exact ⟨n.minValue_le_toInt, n.toInt_le⟩
  · rintro ⟨hl, hr⟩
    rw [Int64.toInt_minValue] at hl
    rw [Int64.toInt_maxValue] at hr
    exact ⟨Int64.ofInt i, Int64.toInt_ofInt_of_le hl (Int.lt_of_le_sub_one hr)⟩

theorem readInt64?_writeInteger (n : Int64) : readInt64? (writeInteger n.toInt) = some n := by
  simp [readInt64?, readInteger?_writeInteger, toInt64?_eq_some]

end Interpolation.Number
