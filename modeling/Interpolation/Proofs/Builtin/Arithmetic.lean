import Interpolation.Builtin.Call
import Interpolation.Proofs.Number.Numeral
import Interpolation.Proofs.Purity

/-!
# Arithmetic on integers

Operands are integers or texts of integers, and it does not matter which (`Numeral.of?_of_denotes`).
The sum, the difference, the product and the quotient are exact, or an error if no word holds them
(`arithmetic_exact`). The remainder is the Euclidean one, which a word always holds; yet one pair of
operands is refused, that whose quotient is out of range (`mod_euclidean`, `not_mod_total`).
-/

namespace Interpolation

open Text

variable {σ : Type}

/-! ## Operands -/

/-- The value is the integer, or a numeral of it with blanks around. -/
inductive Value.Denotes : Value → Int64 → Prop where
  | int (n : Int64) : Denotes (.int n) n
  | text {before cs after : List Char} {n : Int64} (hbefore : ∀ c ∈ before, isBlank c = true)
    (hcs : Number.IsNumeral cs n.toInt) (hafter : ∀ c ∈ after, isBlank c = true) :
    Denotes (.str (String.ofList (before ++ cs ++ after))) n

/-- What an integer is written as (`Number.writeInt64`) denotes it. -/
theorem Value.denotes_writeInt64 (n : Int64) : (Value.str (Number.writeInt64 n)).Denotes n := by
  have h := @Value.Denotes.text [] _ [] n (List.forall_mem_nil _)
    (Number.isNumeral_writeInteger n.toInt) (List.forall_mem_nil _)
  rwa [List.nil_append, List.append_nil] at h

namespace Builtin

variable {m n : Int64} {v w : Value}

/-- An operand that denotes an integer is read as that integer. -/
theorem Numeral.of?_of_denotes (h : v.Denotes n) : Numeral.of? v = some (.int n) := by
  cases h with
  | int => rfl
  | text hbefore hcs hafter =>
    rw [Numeral.of?, String.toList_ofList, hcs.trim hbefore hafter, Numeral.read?,
      Number.readInt64?_of_isNumeral hcs]

theorem numeral_of_denotes (h : v.Denotes n) (function : String) :
    numeral function v = .ok (.int n) := by
  rw [numeral, Numeral.of?_of_denotes h]

/-! ## Operations -/

/-- The value of an exact result, or the fault of a function that has none in range. -/
def checked (function : String) (exact : Option Int) : Except Error Value :=
  match exact.bind Number.toInt64? with
  | some r => .ok (.int r)
  | none => .error (.of (.overflow function))

theorem checked_of_toInt {exact : Option Int} {r : Int64} (h : exact = some r.toInt)
    (function : String) :
    checked function exact = .ok (.int r) := by
  rw [checked, h, Option.bind_some, Number.toInt64?_eq_some.2 rfl]

theorem checked_of_forall_ne {exact : Option Int} (h : ∀ r : Int64, exact ≠ some r.toInt)
    (function : String) :
    checked function exact = .error (.of (.overflow function)) := by
  have hnone : exact.bind Number.toInt64? = none := by
    refine Option.eq_none_iff_forall_ne_some.2 fun r hr => ?_
    obtain ⟨i, rfl, hi⟩ := Option.bind_eq_some_iff.1 hr
    exact h r (congrArg some (Number.toInt64?_eq_some.1 hi).symm)
  rw [checked, hnone]

theorem arithmetic_of_denotes (hv : v.Denotes m) (hw : w.Denotes n) (function : String)
    (exact : Int → Int → Option Int) (rounded : Float → Float → Float) :
    arithmetic function exact rounded v w = checked function (exact m.toInt n.toInt) := by
  rw [arithmetic, numeral_of_denotes hv, numeral_of_denotes hw]
  rfl

/-- Texts of integers are added, not put together. -/
theorem sum_of_denotes (hv : v.Denotes m) (hw : w.Denotes n) :
    sum v w = checked "ADD" (some (m.toInt + n.toInt)) := by
  have htotal := arithmetic_of_denotes hv hw "ADD" (fun m n => some (m + n)) (· + ·)
  unfold sum
  split
  · rw [Numeral.of?_of_denotes hv, Numeral.of?_of_denotes hw]
    exact htotal
  · exact htotal

theorem refuseZero_of_denotes (hw : w.Denotes n) (function : String) :
    refuseZero function w = if n = 0 then .error (.of (.divisionByZero function)) else .ok () := by
  rw [refuseZero, numeral_of_denotes hw]
  by_cases hn : n = 0
  · rw [if_pos hn, hn]
    rfl
  · rw [if_neg hn]
    have hzero : (Numeral.int n).isZero = false := beq_eq_false_iff_ne.2 hn
    change (if (Numeral.int n).isZero = true then _ else _) = _
    rw [hzero]
    rfl

/-- A quotient or a remainder: that of a zero divisor is refused before all else. -/
theorem refuseZero_bind_of_denotes (hw : w.Denotes n) (function : String) (x : Except Error Value) :
    (refuseZero function w >>= fun _ => x) =
      if n = 0 then .error (.of (.divisionByZero function)) else x := by
  rw [refuseZero_of_denotes hw]
  split <;> rfl

theorem quotient_of_denotes (hv : v.Denotes m) (hw : w.Denotes n) :
    quotient v w =
      if n = 0 then .error (.of (.divisionByZero "DIV"))
        else checked "DIV" (some (m.toInt.tdiv n.toInt)) := by
  rw [quotient, refuseZero_bind_of_denotes hw, arithmetic_of_denotes hv hw]

theorem remainder_of_denotes (hv : v.Denotes m) (hw : w.Denotes n) :
    remainder v w =
      if n = 0 then .error (.of (.divisionByZero "MOD"))
      else checked "MOD" ((Number.toInt64? (m.toInt.tdiv n.toInt)).map fun _ =>
        m.toInt % n.toInt) := by
  rw [remainder, refuseZero_bind_of_denotes hw, arithmetic_of_denotes hv hw]
  rfl

end Builtin

/-! ## Calls -/

/-- The computation gives `exact` as an integer if a word holds it, and is a type mismatch if none
does or there is no result. It leaves the host alone. -/
structure Eval.GivesExact (x : Eval σ Value) (exact : Option Int) : Prop where
  of_fits : ∀ r : Int64, exact = some r.toInt → ∀ s, x.run s = (.ok (.int r), s)
  of_not_fits : (∀ r : Int64, exact ≠ some r.toInt) →
    ∃ err : Error, err.kind = .typeMismatch ∧ ∀ s, x.run s = (.error err, s)

namespace Builtin

variable {m n : Int64} {v w : Value}

theorem checked_givesExact (function : String) (exact : Option Int) :
    (.ofExcept (checked function exact) : Eval σ Value).GivesExact exact where
  of_fits r hr s := by
    rw [checked_of_toInt hr]
    rfl
  of_not_fits h := by
    refine ⟨.of (.overflow function), rfl, fun s => ?_⟩
    rw [checked_of_forall_ne h]
    rfl

/-- **Arithmetic on integers is exact or refused.** Call the sum, the difference, the product or the
quotient with operands that denote integers (`Value.Denotes`). The exact result, for the quotient
truncated toward zero, is what comes back as an integer, if it is in the range of words; if it is
not, and for a zero divisor, the call is a type mismatch. So no call wraps around, rounds or puts
texts together, and each gives just what it gives for the integers themselves. -/
theorem arithmetic_exact (host : Host σ) (hv : v.Denotes m) (hw : w.Denotes n) :
    let call (b : Builtin) (v w : Value) := host.callRef (.builtin b) [v, w]
    (call .add v w).GivesExact (some (m.toInt + n.toInt)) ∧
    (call .sub v w).GivesExact (some (m.toInt - n.toInt)) ∧
    (call .mul v w).GivesExact (some (m.toInt * n.toInt)) ∧
    (call .div v w).GivesExact (if n = 0 then none else some (m.toInt.tdiv n.toInt)) ∧
    ∀ b ∈ [Builtin.add, .sub, .mul, .div], call b v w = call b (.int m) (.int n) := by
  intro call
  have hadd {v w : Value} (hv : v.Denotes m) (hw : w.Denotes n) : call .add v w = .ofExcept _ :=
    congrArg Eval.ofExcept (sum_of_denotes hv hw)
  have hsub {v w : Value} (hv : v.Denotes m) (hw : w.Denotes n) : call .sub v w = .ofExcept _ :=
    congrArg Eval.ofExcept (arithmetic_of_denotes hv hw "SUB" (fun m n => some (m - n)) (· - ·))
  have hmul {v w : Value} (hv : v.Denotes m) (hw : w.Denotes n) : call .mul v w = .ofExcept _ :=
    congrArg Eval.ofExcept (arithmetic_of_denotes hv hw "MUL" (fun m n => some (m * n)) (· * ·))
  have hdiv {v w : Value} (hv : v.Denotes m) (hw : w.Denotes n) : call .div v w = .ofExcept _ :=
    congrArg Eval.ofExcept (quotient_of_denotes hv hw)
  refine ⟨?_, ?_, ?_, ?_, ?_⟩
  · rw [hadd hv hw]
    exact checked_givesExact ..
  · rw [hsub hv hw]
    exact checked_givesExact ..
  · rw [hmul hv hw]
    exact checked_givesExact ..
  · rw [hdiv hv hw]
    split
    · exact ⟨nofun, fun _ => ⟨.of (.divisionByZero "DIV"), rfl, fun s => rfl⟩⟩
    · exact checked_givesExact ..
  · have hm := Value.Denotes.int m
    have hn := Value.Denotes.int n
    refine List.forall_mem_cons.2 ⟨(hadd hv hw).trans (hadd hm hn).symm, ?_⟩
    refine List.forall_mem_cons.2 ⟨(hsub hv hw).trans (hsub hm hn).symm, ?_⟩
    refine List.forall_mem_cons.2 ⟨(hmul hv hw).trans (hmul hm hn).symm, ?_⟩
    exact List.forall_mem_singleton.2 ((hdiv hv hw).trans (hdiv hm hn).symm)

/-- The least integer as a text with a tab and an ideographic space around it, and minus one. Their
sum is out of range and so is their quotient. -/
theorem arithmetic_exact_least :
    (Value.str "\t-9223372036854775808\u3000").Denotes Int64.minValue ∧
    (Value.str "-1").Denotes (-1) ∧
    (∃ err : Error, err.kind = .typeMismatch ∧ (Host.echo.callRef (.builtin .div)
      [.str "\t-9223372036854775808\u3000", .str "-1"]).run () = (.error err, ())) ∧
    (Host.echo.callRef (.builtin .sub) [.str "\t-9223372036854775808\u3000", .str "-1"]).run () =
      (.ok (.int (-9223372036854775807)), ()) := by
  have hnumeral : Number.IsNumeral "-9223372036854775808".toList Int64.minValue.toInt :=
    Number.readInteger?_eq_some_iff.1 (by decide)
  have hleast : (Value.str "\t-9223372036854775808\u3000").Denotes Int64.minValue :=
    @Value.Denotes.text ['\t'] _ ['\u3000'] _ (List.forall_mem_singleton.2 (by decide)) hnumeral
      (List.forall_mem_singleton.2 (by decide))
  have hone : (Value.str "-1").Denotes (-1) := Value.denotes_writeInt64 (-1)
  obtain ⟨-, hsub, -, hdiv, -⟩ := arithmetic_exact Host.echo hleast hone
  obtain ⟨err, hkind, herr⟩ := hdiv.of_not_fits fun r hr => by
    rw [if_neg (by decide)] at hr
    have hquotient : Int64.minValue.toInt.tdiv (-1 : Int64).toInt = 9223372036854775808 := by decide
    have hle := r.toInt_le
    rw [← Option.some.inj hr, hquotient] at hle
    exact absurd hle (by decide)
  exact ⟨hleast, hone, ⟨err, hkind, herr ()⟩, hsub.of_fits (-9223372036854775807) (by decide) ()⟩

/-! ## The remainder -/

/-- The remainder that is not negative and less than the divisor's size. -/
structure IsEuclideanRemainder (m n r : Int) : Prop where
  nonneg : 0 ≤ r
  lt : r < n.natAbs
  dvd : n ∣ m - r

/-- There is one Euclidean remainder for every divisor but zero. -/
theorem isEuclideanRemainder_iff {m n r : Int} (hn : n ≠ 0) :
    IsEuclideanRemainder m n r ↔ r = m % n := by
  constructor
  · rintro ⟨hnonneg, hlt, q, hq⟩
    have hr : r % n = r := by
      rcases Int.natAbs_eq n with h | h
      · rw [h]
        exact Int.emod_eq_of_lt hnonneg hlt
      · rw [h, Int.emod_neg]
        exact Int.emod_eq_of_lt hnonneg hlt
    obtain rfl : m = r + n * q := by omega
    rw [Int.add_mul_emod_self_left, hr]
  · rintro rfl
    exact ⟨Int.emod_nonneg m hn, Int.emod_lt m hn, Int.dvd_self_sub_emod⟩

theorem toInt_ne_zero (hn : n ≠ 0) :
    n.toInt ≠ 0 := fun h => hn (Int64.toInt_inj.1 (h.trans Int64.toInt_zero.symm))

/-- A word holds every remainder of words. -/
theorem exists_toInt_eq_emod (m : Int64) (hn : n ≠ 0) :
    ∃ r : Int64, r.toInt = m.toInt % n.toInt := by
  have hn := toInt_ne_zero hn
  have hnonneg := Int.emod_nonneg m.toInt hn
  have hlt := Int.emod_lt m.toInt hn
  have hsome : (Number.toInt64? (m.toInt % n.toInt)).isSome := by
    have hleast := n.minValue_le_toInt
    have hgreatest := n.toInt_le
    rw [Number.isSome_toInt64?]
    rw [Int64.toInt_minValue] at hleast ⊢
    rw [Int64.toInt_maxValue] at hgreatest ⊢
    omega
  obtain ⟨r, hr⟩ := Option.isSome_iff_exists.1 hsome
  exact ⟨r, Number.toInt64?_eq_some.1 hr⟩

/-- A word holds every quotient of words but one. -/
theorem toInt64?_tdiv (h : ¬ (m = Int64.minValue ∧ n = -1)) :
    Number.toInt64? (m.toInt.tdiv n.toInt) = some (m / n) := by
  rw [Number.toInt64?_eq_some]
  rcases Decidable.not_and_iff_or_not.1 h with hm | hn
  · exact Int64.toInt_div_of_ne_left m n hm
  · exact Int64.toInt_div_of_ne_right m n hn

/-- **The remainder is the Euclidean one.** Call the remainder with operands that denote integers
(`Value.Denotes`). For a divisor other than zero the Euclidean remainder comes back as an integer,
and it is the only one; but the least integer by minus one is refused as out of range, as its
quotient is. A zero divisor is refused as such. Both are type mismatches. -/
theorem mod_euclidean (host : Host σ) (hv : v.Denotes m) (hw : w.Denotes n) :
    let call := host.callRef (.builtin .mod) [v, w]
    (n ≠ 0 → ¬ (m = Int64.minValue ∧ n = -1) → ∃ r : Int64, (∀ s, call.run s = (.ok (.int r), s)) ∧
      IsEuclideanRemainder m.toInt n.toInt r.toInt ∧
      ∀ r', IsEuclideanRemainder m.toInt n.toInt r' → r' = r.toInt) ∧
    (m = Int64.minValue ∧ n = -1 → ∀ s, call.run s = (.error (.of (.overflow "MOD")), s)) ∧
    (n = 0 → ∀ s, call.run s = (.error (.of (.divisionByZero "MOD")), s)) ∧
    (Fault.overflow "MOD").kind = .typeMismatch ∧
    (Fault.divisionByZero "MOD").kind = .typeMismatch := by
  intro call
  have hcall : call = .ofExcept _ := congrArg Eval.ofExcept (remainder_of_denotes hv hw)
  refine ⟨fun hn hlimit => ?_, ?_, ?_, rfl, rfl⟩
  · obtain ⟨r, hr⟩ := exists_toInt_eq_emod m hn
    refine ⟨r, fun s => ?_, (isEuclideanRemainder_iff (toInt_ne_zero hn)).2 hr, fun r' hr' => ?_⟩
    · rw [hcall, if_neg hn, toInt64?_tdiv hlimit, Option.map_some,
        checked_of_toInt (congrArg some hr.symm)]
      rfl
    · rw [hr]
      exact (isEuclideanRemainder_iff (toInt_ne_zero hn)).1 hr'
  · rintro ⟨rfl, rfl⟩ s
    rw [hcall, if_neg (by decide),
      show Number.toInt64? (Int64.minValue.toInt.tdiv (-1 : Int64).toInt) = none by decide]
    rfl
  · rintro rfl s
    rw [hcall, if_pos rfl]
    rfl

/-- The remainder of `-7` by `-3`, one of them a text. -/
theorem mod_euclidean_negative :
    (Value.str "-7").Denotes (-7) ∧ (Value.int (-3)).Denotes (-3) ∧
    (Host.echo.callRef (.builtin .mod) [.str "-7", .int (-3)]).run () = (.ok (.int 2), ()) := by
  have hv : (Value.str "-7").Denotes (-7) := Value.denotes_writeInt64 (-7)
  have hw := Value.Denotes.int (-3)
  obtain ⟨r, hrun, -, hunique⟩ := (mod_euclidean Host.echo hv hw).1 (by decide) (by decide)
  have hr : (2 : Int64).toInt = r.toInt := hunique 2 ⟨by decide, by decide, by decide⟩
  exact ⟨hv, hw, Int64.toInt_inj.1 hr ▸ hrun ()⟩

/-- **The remainder is not there for every divisor but zero.** That of the least integer by minus
one is zero, and the call is refused. -/
theorem not_mod_total : ¬ ∀ m n : Int64, n ≠ 0 → ∃ r : Int64,
    ((Host.echo.callRef (.builtin .mod) [.int m, .int n]).run ()).1 = .ok (.int r) ∧
      IsEuclideanRemainder m.toInt n.toInt r.toInt := by
  intro h
  obtain ⟨r, hrun, -⟩ := h Int64.minValue (-1) (by decide)
  cases hrun

end Builtin
end Interpolation
