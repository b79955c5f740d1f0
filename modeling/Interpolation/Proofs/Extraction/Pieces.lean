import Interpolation.Proofs.Extraction.Bounds

/-!
# The pieces of a text, each extracted alone

A scan looks ahead by no more than a delimiter, and a delimiter that is not ahead in a text is not
ahead in a text that ends earlier; so a text that ends at the border of a piece is scanned by the
same steps (`close?_of_shorter`). Hence a sigil alone is that sigil, and the plain text before,
between and after the sigils is plain alone (`scan_sound`).
-/

namespace Interpolation

open Text

variable {d : Delimiters} {depth : Nat} {c : Char} {cs rest inside after : List Char}

namespace Delimiters

/-! ## The steps of a scan -/

theorem close?_of_opening (h : stripStart? d.opening cs = some rest) :
    d.close? depth cs = (d.close? (depth + 1) rest).map fun (inside, after) =>
      (d.opening ++ inside, after) := by
  cases cs with
  | nil => exact absurd (length_lt_of_stripStart? d.opening_ne_nil h) (Nat.not_lt_zero _)
  | cons c cs =>
    rw [close?]
    split
    · next hs =>
      cases h.symm.trans hs
      rfl
    · next hs => cases h.symm.trans hs

theorem close?_of_closing (ho : stripStart? d.opening cs = none)
    (hc : stripStart? d.closing cs = some rest) :
    d.close? depth cs =
      match depth with
      | 0 => some (d.closing, rest)
      | depth + 1 =>
        (d.close? depth rest).map fun (inside, after) => (d.closing ++ inside, after) := by
  cases cs with
  | nil => exact absurd (length_lt_of_stripStart? d.closing_ne_nil hc) (Nat.not_lt_zero _)
  | cons c cs =>
    rw [close?]
    split
    · next hs => cases ho.symm.trans hs
    · split
      · next hs =>
        cases hc.symm.trans hs
        rfl
      · next hs => cases hc.symm.trans hs

theorem close?_of_none (ho : stripStart? d.opening (c :: cs) = none)
    (hc : stripStart? d.closing (c :: cs) = none) :
    d.close? depth (c :: cs) = (d.close? depth cs).map fun (inside, after) =>
      (c :: inside, after) := by
  rw [close?]
  split
  · next hs => cases ho.symm.trans hs
  · split
    · next hs => cases hc.symm.trans hs
    · rfl

theorem scan_of_none (h : stripStart? d.opening (c :: cs) = none) :
    d.scan (c :: cs) = (d.scan cs).prepend [c] := by
  rw [scan]
  split
  · rfl
  · next hs => cases h.symm.trans hs

/-- A text that begins with a region that is not closed. -/
theorem scan_of_close?_eq_none (h : d.close? 0 rest = none) :
    d.scan (d.opening ++ rest) = ⟨[], d.opening ++ rest⟩ := by
  rw [scan_of_opening, h]

/-- A text that begins with a region in which quotes are open. -/
theorem scan_of_close?_of_not_balances (h : d.close? 0 rest = some (inside, after))
    (hq : balancesQuotes (d.opening ++ inside) = false) :
    d.scan (d.opening ++ rest) = (d.scan after).prepend (d.opening ++ inside) := by
  rw [scan_of_opening, h]
  exact if_neg (by simp [hq])

/-! ## Texts that end earlier -/

theorem stripStart?_eq_none_of_shorter {part cs' : List Char} (h : stripStart? part cs = none)
    (hp : cs' <+: cs) :
    stripStart? part cs' = none := by
  refine Option.eq_none_iff_forall_ne_some.2 fun rest hrest => ?_
  obtain ⟨more, rfl⟩ := hp
  rw [stripStart?_eq_some.1 hrest, List.append_assoc, stripStart?_append] at h
  cases h

/-- **A region that is closed in a text is closed in every text that goes on less far.** -/
theorem close?_of_shorter {after' : List Char} (h : d.close? depth cs = some (inside, after))
    (hp : after' <+: after) :
    d.close? depth (inside ++ after') = some (inside, after') := by
  -- along the steps of the longer scan: none of them sees a delimiter less, and the shorter text
  -- has none more
  fun_induction close? d depth cs generalizing inside with
  | case1 => cases h
  | case2 depth c cs rest hs _ ih =>
    obtain ⟨⟨i, a⟩, hr, heq⟩ := Option.map_eq_some_iff.1 h
    obtain ⟨rfl, rfl⟩ := Prod.mk.inj heq
    rw [List.append_assoc, close?_of_opening (stripStart?_append ..), ih hr]
    rfl
  | case3 c cs ho rest hs =>
    obtain ⟨rfl, rfl⟩ := Prod.mk.inj (Option.some.inj h)
    have hshort : d.closing ++ after' <+: c :: cs := by
      rw [stripStart?_eq_some.1 hs]
      exact (List.prefix_append_right_inj _).2 hp
    rw [close?_of_closing (stripStart?_eq_none_of_shorter ho hshort) (stripStart?_append ..)]
  | case4 c cs ho rest hs _ depth ih =>
    obtain ⟨⟨i, a⟩, hr, heq⟩ := Option.map_eq_some_iff.1 h
    obtain ⟨rfl, rfl⟩ := Prod.mk.inj heq
    have hshort : d.closing ++ (i ++ after') <+: c :: cs := by
      rw [stripStart?_eq_some.1 hs, eq_of_close? hr]
      exact (List.prefix_append_right_inj _).2 ((List.prefix_append_right_inj _).2 hp)
    rw [List.append_assoc, close?_of_closing (stripStart?_eq_none_of_shorter ho hshort)
      (stripStart?_append ..)]
    dsimp only
    rw [ih hr]
    rfl
  | case5 depth c cs ho hc ih =>
    obtain ⟨⟨i, a⟩, hr, heq⟩ := Option.map_eq_some_iff.1 h
    obtain ⟨rfl, rfl⟩ := Prod.mk.inj heq
    have hshort : c :: (i ++ after') <+: c :: cs := by
      rw [eq_of_close? hr]
      exact List.cons_prefix_cons.2 ⟨rfl, (List.prefix_append_right_inj _).2 hp⟩
    rw [List.cons_append, close?_of_none (stripStart?_eq_none_of_shorter ho hshort)
      (stripStart?_eq_none_of_shorter hc hshort), ih hr]
    rfl

end Delimiters

/-! ## Each piece alone -/

/-- Nothing is extracted from the text. -/
def Delimiters.Plain (d : Delimiters) (cs : List Char) : Prop := d.scan cs = ⟨[], cs⟩

/-- The text is one sigil, and quotes are balanced in it. -/
structure Delimiters.IsSigil (d : Delimiters) (cs : List Char) : Prop where
  scan : d.scan cs = ⟨[⟨[], cs⟩], []⟩
  opening : d.opening <+: cs
  closing : d.closing <:+ cs
  balances : balancesQuotes cs = true

/-- Each piece is of its kind also when it is taken alone. -/
structure Extraction.Sound (d : Delimiters) (e : Extraction) : Prop where
  plain : ∀ p ∈ e.pieces, d.Plain p.plain
  sigil : ∀ p ∈ e.pieces, d.IsSigil p.sigil
  tail : d.Plain e.tail

namespace Extraction

/-- The plain text before the first sigil, or all of it. -/
def lead (e : Extraction) : List Char :=
  match e.pieces with
  | [] => e.tail
  | p :: _ => p.plain

theorem lead_prefix_text (e : Extraction) : e.lead <+: e.text := by
  obtain ⟨pieces, tail⟩ := e
  cases pieces with
  | nil => exact List.prefix_rfl
  | cons p ps => simp only [lead, text, List.flatMap_cons, List.append_assoc, List.prefix_append]

theorem Sound.plain_lead {e : Extraction} (h : e.Sound d) : d.Plain e.lead := by
  obtain ⟨pieces, tail⟩ := e
  cases pieces with
  | nil => exact h.tail
  | cons p ps => exact h.plain p List.mem_cons_self

theorem Sound.of_tail {tail : List Char} (h : d.Plain tail) : Sound d ⟨[], tail⟩ :=
  ⟨List.forall_mem_nil _, List.forall_mem_nil _, h⟩

theorem Sound.prepend {e : Extraction} {plain : List Char} (h : e.Sound d)
    (hl : d.Plain (plain ++ e.lead)) :
    (e.prepend plain).Sound d := by
  obtain ⟨pieces, tail⟩ := e
  cases pieces with
  | nil => exact .of_tail hl
  | cons p ps =>
    obtain ⟨hp, hps⟩ := List.forall_mem_cons.1 h.sigil
    exact ⟨List.forall_mem_cons.2 ⟨hl, (List.forall_mem_cons.1 h.plain).2⟩,
      List.forall_mem_cons.2 ⟨hp, hps⟩, h.tail⟩

end Extraction

namespace Delimiters

theorem plain_nil : d.Plain [] := by
  rw [Plain, scan]

/-- A sigil that is closed in a text is a sigil alone. -/
theorem isSigil_of_close? (h : d.close? 0 rest = some (inside, after))
    (hq : balancesQuotes (d.opening ++ inside) = true) : d.IsSigil (d.opening ++ inside) where
  scan := by
    have halone : d.close? 0 inside = some (inside, []) := by
      simpa using close?_of_shorter h List.nil_prefix
    have hscan := scan_of_close? halone hq
    rwa [plain_nil] at hscan
  opening := List.prefix_append ..
  closing := (closing_suffix_of_close? h).trans (List.suffix_append ..)
  balances := hq

theorem sigils_of_extract {sigil : String}
    (h : d.extract sigil = ⟨[⟨[], sigil.toList⟩], []⟩) : (d.extract sigil).sigils = [sigil] := by
  rw [h]
  exact congrArg ([·]) String.ofList_toList

/-- A text in square brackets without others inside is a sigil. -/
theorem extract_square {text : String} (inside : List Char)
    (htext : text.toList = '[' :: (inside ++ [']'])) (hplain : ∀ c ∈ inside, c ≠ '[' ∧ c ≠ ']')
    (hq : balancesQuotes ('[' :: (inside ++ [']'])) = true) :
    square.extract text = ⟨[⟨[], '[' :: (inside ++ [']'])⟩], []⟩ := by
  have hclose : square.close? 0 (inside ++ [']']) = some (inside ++ [']'], []) := by
    clear htext hq
    induction inside with
    | nil => exact close?_of_closing rfl rfl
    | cons c inside ih =>
      obtain ⟨hc, hinside⟩ := List.forall_mem_cons.1 hplain
      have hopening : stripStart? square.opening (c :: (inside ++ [']'])) = none :=
        if_neg (Ne.symm hc.1)
      have hclosing : stripStart? square.closing (c :: (inside ++ [']'])) = none :=
        if_neg (Ne.symm hc.2)
      refine (close?_of_none hopening hclosing).trans ?_
      rw [ih hinside]
      rfl
  rw [extract, htext]
  exact (isSigil_of_close? hclose hq).scan

/-- **Each piece of a text is of its kind alone**, `Plain` or a sigil (`IsSigil`). -/
theorem scan_sound (d : Delimiters) (cs : List Char) : (d.scan cs).Sound d := by
  fun_induction scan d cs with
  | case1 => exact .of_tail plain_nil
  | case2 c cs hs ih =>
    refine ih.prepend ?_
    have hshort : c :: (d.scan cs).lead <+: c :: cs := by
      have hlead := (d.scan cs).lead_prefix_text
      rw [text_scan] at hlead
      exact List.cons_prefix_cons.2 ⟨rfl, hlead⟩
    rw [Plain, List.singleton_append,
      scan_of_none (stripStart?_eq_none_of_shorter hs hshort), ih.plain_lead]
    rfl
  | case3 c cs rest hs hc =>
    rw [stripStart?_eq_some.1 hs]
    exact .of_tail (scan_of_close?_eq_none hc)
  | case4 c cs rest hs inside after hc _ sigil e hq ih =>
    refine ⟨List.forall_mem_cons.2 ⟨plain_nil, ih.plain⟩,
      List.forall_mem_cons.2 ⟨?_, ih.sigil⟩, ih.tail⟩
    exact isSigil_of_close? hc hq
  | case5 c cs rest hs inside after hc _ sigil e hq ih =>
    refine ih.prepend ?_
    have hlead := (d.scan after).lead_prefix_text
    rw [text_scan] at hlead
    have hclose := close?_of_shorter hc hlead
    rw [Plain, List.append_assoc, scan_of_close?_of_not_balances hclose
      (Bool.eq_false_iff.2 hq), ih.plain_lead]
    exact congrArg (Extraction.mk []) (List.append_assoc ..)

end Delimiters
end Interpolation
