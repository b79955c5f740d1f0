import Interpolation.Extraction

/-!
# Texts without sigils

What a text must hold for sigils to be extracted from it: an opening delimiter, and a closing one
after it. A text that does not hold them is plain as a whole (`extract_of_mayHoldSigil_eq_false`).
-/

namespace Interpolation.Delimiters

open Text

/-- A region that is closed ends with a closing delimiter. -/
theorem closing_suffix_of_close? {d : Delimiters} {depth : Nat} {cs inside after : List Char}
    (h : d.close? depth cs = some (inside, after)) : d.closing <:+ inside := by
  fun_induction close? d depth cs generalizing inside with
  | case1 => cases h
  | case3 c cs _ rest hs =>
    obtain ⟨rfl, -⟩ := Prod.mk.inj (Option.some.inj h)
    exact List.suffix_rfl
  | case2 depth c cs rest hs _ ih | case4 c cs _ rest hs _ depth ih | case5 depth c cs _ _ ih =>
    obtain ⟨⟨i, a⟩, hr, he⟩ := Option.map_eq_some_iff.1 h
    obtain ⟨rfl, rfl⟩ := Prod.mk.inj he
    first
    | exact (ih hr).trans (List.suffix_append ..)
    | exact (ih hr).trans (List.suffix_cons ..)

theorem occurs_closing_of_close? {d : Delimiters} {depth : Nat} {cs inside after : List Char}
    (h : d.close? depth cs = some (inside, after)) : occurs d.closing cs = true := by
  obtain ⟨before, rfl⟩ := closing_suffix_of_close? h
  rw [eq_of_close? h, List.append_assoc]
  exact occurs_append ..

/-- A text from which a sigil is extracted holds both delimiters, in order. -/
theorem cutAt?_of_scan {d : Delimiters} {cs : List Char} (h : (d.scan cs).pieces ≠ []) :
    ∃ before after, cutAt? d.opening cs = some (before, after) ∧ occurs d.closing after = true := by
  fun_induction scan d cs with
  | case1 => exact absurd rfl h
  | case2 c cs hs ih =>
    have hp : (d.scan cs).pieces ≠ [] := by
      intro hp
      simp [Extraction.prepend, hp] at h
    obtain ⟨before, after, hc, ho⟩ := ih hp
    refine ⟨c :: before, after, ?_, ho⟩
    rw [cutAt?, hs, hc]
    rfl
  | case3 => exact absurd rfl h
  | case4 c cs rest hs inside after hc | case5 c cs rest hs inside after hc =>
    refine ⟨[], rest, ?_, occurs_closing_of_close? hc⟩
    rw [cutAt?, hs]

/-- **A text that cannot hold a sigil (`mayHoldSigil`) is plain.** -/
theorem extract_of_mayHoldSigil_eq_false {d : Delimiters} {text : String}
    (h : d.mayHoldSigil text = false) :
    d.extract text = ⟨[], text.toList⟩ := by
  have hp : (d.extract text).pieces = [] := by
    refine Decidable.byContradiction fun hp => ?_
    obtain ⟨before, after, hc, ho⟩ := cutAt?_of_scan hp
    rw [mayHoldSigil, hc] at h
    cases ho.symm.trans h
  have ht : (d.extract text).text = text.toList := d.text_scan text.toList
  rw [Extraction.text, hp] at ht
  cases he : d.extract text with
  | mk pieces tail =>
    rw [he] at hp ht
    subst hp
    exact congrArg _ ht

/-- A text that begins with an opening delimiter. -/
theorem scan_of_opening (d : Delimiters) (rest : List Char) : d.scan (d.opening ++ rest) =
    match d.close? 0 rest with
    | none => ⟨[], d.opening ++ rest⟩
    | some (inside, after) =>
      if balancesQuotes (d.opening ++ inside) then
        ⟨⟨[], d.opening ++ inside⟩ :: (d.scan after).pieces, (d.scan after).tail⟩
      else (d.scan after).prepend (d.opening ++ inside) := by
  obtain ⟨c, cs, ho⟩ := List.exists_cons_of_ne_nil d.opening_ne_nil
  have htext : d.opening ++ rest = c :: (cs ++ rest) := by rw [ho, List.cons_append]
  have hs : stripStart? d.opening (c :: (cs ++ rest)) = some rest := by
    rw [← htext, stripStart?_append]
  rw [htext, scan]
  split
  · next hs' => cases hs.symm.trans hs'
  · next rest' hs' =>
    cases hs.symm.trans hs'
    split
    · next hc => rw [hc]
    · next inside after hc =>
      dsimp only
      rw [hc]

/-- A text is scanned from its first character on. -/
theorem scan_cons (d : Delimiters) (c : Char) (cs : List Char) : d.scan (c :: cs) =
    match stripStart? d.opening (c :: cs) with
    | none => (d.scan cs).prepend [c]
    | some rest =>
      match d.close? 0 rest with
      | none => ⟨[], d.opening ++ rest⟩
      | some (inside, after) =>
        if balancesQuotes (d.opening ++ inside) then
          ⟨⟨[], d.opening ++ inside⟩ :: (d.scan after).pieces, (d.scan after).tail⟩
        else (d.scan after).prepend (d.opening ++ inside) := by
  cases hs : stripStart? d.opening (c :: cs) with
  | none =>
    rw [scan]
    split
    · rfl
    · next hs' => cases hs.symm.trans hs'
  | some rest => rw [stripStart?_eq_some.1 hs, scan_of_opening]

/-- A text that begins with a sigil. -/
theorem scan_of_close? {d : Delimiters} {rest inside after : List Char}
    (h : d.close? 0 rest = some (inside, after))
      (hq : balancesQuotes (d.opening ++ inside) = true) :
    d.scan (d.opening ++ rest) = ⟨⟨[], d.opening ++ inside⟩ :: (d.scan after).pieces,
      (d.scan after).tail⟩ := by
  rw [scan_of_opening, h]
  exact if_pos hq

end Interpolation.Delimiters
