import Interpolation.Text.Case

/-!
# Uppercase texts

What a character is mapped to is not mapped any further: no code in the image of the tables is among
the codes that they change (`upperCodes_disjoint`). So the uppercase of an uppercase text is the
text itself (`upperCase_upperCase`).
-/

namespace Interpolation.Text

/-! ## Sets of codes -/

/-- The number whose bits are set at `codes`. -/
def bitsOf (codes : List Nat) : Nat := codes.foldr (fun code bits => bits ||| 1 <<< code) 0

theorem testBit_bitsOf {codes : List Nat} {code : Nat} :
    (bitsOf codes).testBit code = true ↔ code ∈ codes := by
  induction codes with
  | nil => simp [bitsOf]
  | cons code' codes ih =>
    have hbits : bitsOf (code' :: codes) = bitsOf codes ||| 1 <<< code' := rfl
    rw [hbits, Nat.testBit_or, Nat.one_shiftLeft, Nat.testBit_two_pow, Bool.or_eq_true,
      decide_eq_true_iff, ih,
      List.mem_cons]
    exact ⟨fun h => h.symm.imp_left Eq.symm, fun h => (h.imp_left Eq.symm).symm⟩

/-- The codes that a run maps. -/
def CaseRun.codes (run : CaseRun) : List Nat :=
  (List.range ((run.last - run.first) / run.step + 1)).map fun k => run.first + k * run.step

/-- The code that a run maps a code to. -/
def CaseRun.image (run : CaseRun) (code : Nat) : Nat := (code + run.shift).toNat

theorem CaseRun.mem_codes {run : CaseRun} {code : Nat} (h : run.maps code = true) :
    code ∈ run.codes := by
  simp only [maps, Bool.and_eq_true, decide_eq_true_eq, beq_iff_eq] at h
  obtain ⟨⟨hfirst, hlast⟩, hstep⟩ := h
  have hdiv : (code - run.first) / run.step * run.step = code - run.first :=
    Nat.div_mul_cancel (Nat.dvd_of_mod_eq_zero hstep)
  have hle : (code - run.first) / run.step ≤ (run.last - run.first) / run.step :=
    Nat.div_le_div_right (Nat.sub_le_sub_right hlast _)
  refine List.mem_map.2 ⟨(code - run.first) / run.step, List.mem_range.2 (by omega), ?_⟩
  rw [hdiv]
  omega

/-! ## The tables -/

/-- The codes that have an uppercase of their own. -/
def changedCodes : List Nat := upperRuns.flatMap CaseRun.codes ++ upperExpansions.map (·.1)

/-- The codes that `changedCodes` are mapped to. -/
def upperCodes : List Nat :=
  upperRuns.flatMap (fun run => run.codes.map run.image) ++ upperExpansions.flatMap (·.2)

/-- **No code that something is mapped to is mapped again.** Those in ASCII are no small letters. -/
theorem upperCodes_disjoint {code : Nat} (h : code ∈ upperCodes) :
    code ∉ changedCodes ∧ ¬ (0x61 ≤ code ∧ code ≤ 0x7A) := by
  have hall : upperCodes.all (fun code =>
      !(bitsOf changedCodes).testBit code && !(Nat.ble 0x61 code && Nat.ble code 0x7A)) = true := by
    decide +kernel
  have hcode := List.all_eq_true.1 hall code h
  rw [Bool.and_eq_true, Bool.not_eq_true', Bool.not_eq_true', Bool.eq_false_iff,
    Bool.eq_false_iff] at hcode
  refine ⟨fun hmem => hcode.1 (testBit_bitsOf.2 hmem), fun hsmall => hcode.2 ?_⟩
  rw [Bool.and_eq_true, Nat.ble_eq, Nat.ble_eq]
  exact hsmall

/-! ## Characters -/

/-- The character has no uppercase but itself. -/
def IsUpper (c : Char) : Prop := upperChar c = [c]

theorem upperChar_of_ascii {c : Char} (h : c.toNat < 0x80) : upperChar c = [c.toUpper] := if_pos h

/-- In ASCII only small letters have an uppercase of their own, and that is no small letter. -/
theorem isUpper_of_ascii {c : Char} (h : c.toNat < 0x80) :
    IsUpper c.toUpper ∧ (¬ (0x61 ≤ c.toNat ∧ c.toNat ≤ 0x7A) → IsUpper c) := by
  have hall : ∀ code < 0x80, upperChar (Char.ofNat code).toUpper = [(Char.ofNat code).toUpper] ∧
      (¬ (0x61 ≤ code ∧ code ≤ 0x7A) → upperChar (Char.ofNat code) = [Char.ofNat code]) := by
    decide
  have hc := hall c.toNat h
  rwa [Char.ofNat_toNat] at hc

theorem isUpper_of_not_changed {c : Char} (h : 0x80 ≤ c.toNat) (hc : c.toNat ∉ changedCodes) :
    IsUpper c := by
  obtain ⟨hruns, hexpansions⟩ := not_or.1 (mt List.mem_append.2 hc)
  have hlookup : upperExpansions.lookup c.toNat = none := by
    refine List.lookup_eq_none_iff.2 fun e he => bne_iff_ne.2 fun heq => hexpansions ?_
    exact List.mem_map.2 ⟨e, he, heq.symm⟩
  have hfind : upperRuns.find? (·.maps c.toNat) = none := by
    refine List.find?_eq_none.2 fun run hrun hmaps => hruns ?_
    exact List.mem_flatMap.2 ⟨run, hrun, CaseRun.mem_codes hmaps⟩
  rw [IsUpper, upperChar, if_neg (Nat.not_lt.2 h), mapCase, hlookup]
  dsimp only
  rw [hfind]

/-- A code that is no character stands for the null character, which is its own uppercase. -/
theorem isUpper_ofNat {code : Nat} (h : code ∈ upperCodes) : IsUpper (Char.ofNat code) := by
  obtain ⟨hchanged, hsmall⟩ := upperCodes_disjoint h
  by_cases hvalid : code.isValidChar
  · have hcode : (Char.ofNat code).toNat = code := by
      rw [Char.ofNat, dif_pos hvalid]
      rfl
    rw [← hcode] at hchanged hsmall
    by_cases hascii : (Char.ofNat code).toNat < 0x80
    · exact (isUpper_of_ascii hascii).2 hsmall
    · exact isUpper_of_not_changed (Nat.not_lt.1 hascii) hchanged
  · have hnull : Char.ofNat code = '\x00' := by
      rw [Char.ofNat, dif_neg hvalid]
      rfl
    rw [hnull]
    rfl

/-- **What `upperChar` maps a character to is uppercase.** -/
theorem isUpper_of_mem_upperChar {c c' : Char} (h : c' ∈ upperChar c) : IsUpper c' := by
  by_cases hascii : c.toNat < 0x80
  · rw [upperChar_of_ascii hascii, List.mem_singleton] at h
    rw [h]
    exact (isUpper_of_ascii hascii).1
  rw [upperChar, if_neg hascii, mapCase] at h
  split at h
  · next codes hlookup =>
    obtain ⟨code, hcode, rfl⟩ := List.mem_map.1 h
    obtain ⟨before, after, heq, -⟩ := List.lookup_eq_some_iff.1 hlookup
    have hmem : (c.toNat, codes) ∈ upperExpansions :=
      heq ▸ List.mem_append_right _ List.mem_cons_self
    exact isUpper_ofNat (List.mem_append_right _ (List.mem_flatMap.2 ⟨_, hmem, hcode⟩))
  · next hlookup =>
    split at h
    · next run hfind =>
      rw [List.mem_singleton] at h
      rw [h]
      have hmaps := List.find?_some hfind
      refine isUpper_ofNat (List.mem_append_left _
        (List.mem_flatMap.2 ⟨run, List.mem_of_find?_eq_some hfind, ?_⟩))
      exact List.mem_map.2 ⟨c.toNat, CaseRun.mem_codes hmaps, rfl⟩
    · next hfind =>
      rw [List.mem_singleton] at h
      rw [h, IsUpper, upperChar, if_neg hascii, mapCase, hlookup]
      dsimp only
      rw [hfind]

/-- **Uppercase is uppercase already.** -/
theorem upperCase_upperCase (s : String) : upperCase (upperCase s) = upperCase s := by
  have hupper {cs : List Char} (h : ∀ c ∈ cs, IsUpper c) : upper cs = cs := by
    induction cs with
    | nil => rfl
    | cons c cs ih =>
      obtain ⟨hc, hcs⟩ := List.forall_mem_cons.1 h
      rw [upper, List.flatMap_cons, hc]
      exact congrArg (c :: ·) (ih hcs)
  have hall : ∀ c ∈ upper s.toList, IsUpper c := by
    intro c hc
    obtain ⟨c', -, hmem⟩ := List.mem_flatMap.1 hc
    exact isUpper_of_mem_upperChar hmem
  rw [upperCase, upperCase, String.toList_ofList, hupper hall]

end Interpolation.Text
