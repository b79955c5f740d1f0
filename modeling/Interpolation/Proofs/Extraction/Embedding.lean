import Interpolation.Proofs.Extraction.Restoration

/-!
# Sigils that are put into plain text

Between delimiters of one character each a scan decides at every character by that character alone,
so what it does up to the end of a text it does as well when the text goes on (`close?_of_longer`).
So a sigil that is extracted from itself as a whole is extracted from any plain text that it is put
into, among others, and nothing else is (`extract_embedded`).
-/

namespace Interpolation

open Text

variable {d : Delimiters} {depth : Nat} {c : Char} {cs inside after : List Char}

theorem Extraction.lead_prepend (e : Extraction) (plain : List Char) :
    (e.prepend plain).lead = plain ++ e.lead := by
  obtain ⟨pieces, tail⟩ := e
  cases pieces <;> rfl

namespace Delimiters

/-- Each of the delimiters is one character. -/
structure Single (d : Delimiters) : Prop where
  opening : d.opening.length = 1
  closing : d.closing.length = 1

theorem stripStart?_of_longer {part rest : List Char} (h : stripStart? part cs = some rest)
    (more : List Char) :
    stripStart? part (cs ++ more) = some (rest ++ more) := by
  rw [stripStart?_eq_some.1 h, List.append_assoc, stripStart?_append]

/-- **A region that is closed in a text is closed in every text that goes on**, between single
characters. -/
theorem close?_of_longer (hd : d.Single) (h : d.close? depth cs = some (inside, after))
    (more : List Char) :
    d.close? depth (cs ++ more) = some (inside, after ++ more) := by
  fun_induction close? d depth cs generalizing inside with
  | case1 => cases h
  | case2 depth c cs rest hs _ ih =>
    obtain ⟨⟨i, a⟩, hr, heq⟩ := Option.map_eq_some_iff.1 h
    obtain ⟨rfl, rfl⟩ := Prod.mk.inj heq
    rw [close?_of_opening (stripStart?_of_longer hs more), ih hr]
    rfl
  | case3 c cs ho rest hs =>
    obtain ⟨rfl, rfl⟩ := Prod.mk.inj (Option.some.inj h)
    exact close?_of_closing (stripStart?_eq_none_of_single hd.opening ho _)
      (stripStart?_of_longer hs more)
  | case4 c cs ho rest hs _ depth ih =>
    obtain ⟨⟨i, a⟩, hr, heq⟩ := Option.map_eq_some_iff.1 h
    obtain ⟨rfl, rfl⟩ := Prod.mk.inj heq
    refine (close?_of_closing (stripStart?_eq_none_of_single hd.opening ho _)
      (stripStart?_of_longer hs more)).trans ?_
    dsimp only
    rw [ih hr]
    rfl
  | case5 depth c cs ho hc ih =>
    obtain ⟨⟨i, a⟩, hr, heq⟩ := Option.map_eq_some_iff.1 h
    obtain ⟨rfl, rfl⟩ := Prod.mk.inj heq
    rw [List.cons_append, close?_of_none (stripStart?_eq_none_of_single hd.opening ho _)
      (stripStart?_eq_none_of_single hd.closing hc _), ih hr]
    rfl

/-- What is extracted from itself as a whole. -/
theorem scan_of_extract_self {sigil : String} (h : (d.extract sigil).sigils = [sigil]) :
    d.scan sigil.toList = ⟨[⟨[], sigil.toList⟩], []⟩ := by
  have htext := d.text_scan sigil.toList
  rw [extract] at h
  rcases hscan : d.scan sigil.toList with ⟨pieces, tail⟩
  rw [hscan] at h htext
  obtain ⟨⟨plain, inside⟩, rfl, hinside⟩ := List.map_eq_singleton_iff.1 h
  obtain rfl : inside = sigil.toList := by rw [← hinside, String.toList_ofList]
  -- the sigil is as long as all of the text, so nothing is left for what is plain
  have hlength := congrArg List.length htext
  simp only [Extraction.text, List.flatMap_cons, List.flatMap_nil, List.append_nil,
    List.length_append] at hlength
  obtain rfl : plain = [] := List.length_eq_zero_iff.1 (by omega)
  obtain rfl : tail = [] := List.length_eq_zero_iff.1 (by omega)
  rfl

/-- What is extracted from itself begins with an opening delimiter, and the region this opens is all
of the rest. -/
theorem exists_close?_of_scan (h : d.scan cs = ⟨[⟨[], cs⟩], []⟩) :
    ∃ inside, cs = d.opening ++ inside ∧ d.close? 0 inside = some (inside, []) ∧
    balancesQuotes cs = true := by
  have hlead : (d.scan cs).lead = [] := congrArg Extraction.lead h
  fun_induction scan d cs with
  | case1 => cases h
  | case2 c cs hs =>
    rw [Extraction.lead_prepend] at hlead
    cases hlead
  | case3 => cases h
  | case4 c cs rest hs inside after hc _ sigil e hq =>
    obtain ⟨hpieces, -⟩ := Extraction.mk.inj h
    have hsigil : d.opening ++ inside = c :: cs := congrArg Piece.sigil (List.cons.inj hpieces).1
    have hrest : rest = inside := List.append_cancel_left
      ((stripStart?_eq_some.1 hs).symm.trans hsigil.symm)
    have hafter : after = [] := List.self_eq_append_right.1 (hrest.symm.trans (eq_of_close? hc))
    exact ⟨inside, hsigil.symm, by rwa [hrest, hafter] at hc, by rwa [← hsigil]⟩
  | case5 c cs rest hs inside after hc _ sigil e hq =>
    rw [Extraction.lead_prepend] at hlead
    exact absurd (List.append_eq_nil_iff.1 (List.append_eq_nil_iff.1 hlead).1).1 d.opening_ne_nil

end Delimiters

/-- **Pieces that are put together by `Extraction.text` are what is extracted from the text.** -/
theorem Delimiters.scan_embedded (hd : d.Single) {e : Extraction}
    (hplain : ∀ gap ∈ e.gaps, ¬ d.opening <:+: gap)
    (hsigil : ∀ sigil ∈ e.sigils, (d.extract sigil).sigils = [sigil]) : d.scan e.text = e := by
  obtain ⟨pieces, tail⟩ := e
  induction pieces with
  | nil =>
    have hscan := scan_of_no_opening hd.opening (hplain tail (List.mem_singleton_self tail)) []
    rw [List.append_nil, scan] at hscan
    simpa [Extraction.text, Extraction.prepend] using hscan
  | cons p ps ih =>
    obtain ⟨hfirst, hplain⟩ := List.forall_mem_cons.1 hplain
    obtain ⟨hself, hsigil⟩ := List.forall_mem_cons.1 hsigil
    have hself := scan_of_extract_self hself
    rw [String.toList_ofList] at hself
    obtain ⟨inside, heq, hclose, hquotes⟩ := exists_close?_of_scan hself
    have hrest : d.scan (Extraction.text ⟨ps, tail⟩) = ⟨ps, tail⟩ := ih hplain hsigil
    have hlonger := close?_of_longer hd hclose (Extraction.text ⟨ps, tail⟩)
    have htext : Extraction.text ⟨p :: ps, tail⟩ =
        p.plain ++ (d.opening ++ (inside ++ Extraction.text ⟨ps, tail⟩)) := by
      simp [Extraction.text, heq]
    rw [htext, scan_of_no_opening hd.opening hfirst, scan_of_close? hlonger (heq ▸ hquotes),
      List.nil_append, hrest]
    simp [Extraction.prepend, ← heq]

namespace Extraction

theorem length_spansFrom (offset : Nat) (ps : List Piece) :
    (spansFrom offset ps).length = ps.length := by
  induction ps generalizing offset with
  | nil => rfl
  | cons p ps ih => exact congrArg Nat.succ (ih _)

/-- A sigil stands after all that comes before it. -/
theorem getElem?_spansFrom (offset : Nat) (before : List Piece) (p : Piece) (after : List Piece) :
    (spansFrom offset (before ++ p :: after))[before.length]? =
      some ⟨offset + byteLength (text ⟨before, p.plain⟩),
        offset + byteLength (text ⟨before, p.plain⟩) + byteLength p.sigil⟩ := by
  induction before generalizing offset with
  | nil => rfl
  | cons b before ih =>
    have htext : byteLength (text ⟨b :: before, p.plain⟩) =
        byteLength b.plain + byteLength b.sigil + byteLength (text ⟨before, p.plain⟩) := by
      simp [text, Nat.add_assoc]
    rw [List.cons_append, spansFrom, List.length_cons, List.getElem?_cons_succ, ih, htext]
    simp only [Nat.add_assoc]

end Extraction

/-- **Sigils that are put into plain text are extracted from it.** Take delimiters of one character
each (`Delimiters.Single`), plain texts without an opening one, whatever else is in them, and sigils
that are extracted from themselves as a whole. From the text that they make in turn just the sigils
are extracted, each where it was put, and hiding them puts the pattern in their place. -/
theorem extract_embedded {d : Delimiters} (hd : d.Single) {e : Extraction}
    (hplain : ∀ gap ∈ e.gaps, ¬ d.opening <:+: gap)
    (hsigil : ∀ sigil ∈ e.sigils, (d.extract sigil).sigils = [sigil]) (pattern : String) :
    let text := String.ofList e.text
    (d.extract text).sigils = e.sigils ∧
    (d.extract text).spans.length = e.pieces.length ∧
    (∀ before p after, e.pieces = before ++ p :: after →
      let start := byteLength (Extraction.text ⟨before, p.plain⟩)
      (d.extract text).spans[before.length]? = some ⟨start, start + byteLength p.sigil⟩) ∧
    d.hide pattern text =
      (String.ofList (Extraction.text ⟨e.pieces.map ({ · with sigil := pattern.toList }),
        e.tail⟩), e.sigils) := by
  intro text
  have hextract : d.extract text = e := by
    rw [Delimiters.extract, String.toList_ofList]
    exact Delimiters.scan_embedded hd hplain hsigil
  refine ⟨congrArg Extraction.sigils hextract, ?_, fun before p after hpieces => ?_, ?_⟩
  · rw [hextract]
    exact Extraction.length_spansFrom 0 e.pieces
  · have hspan := Extraction.getElem?_spansFrom 0 before p after
    rw [Nat.zero_add, ← hpieces] at hspan
    rw [hextract]
    exact hspan
  · rw [Delimiters.hide, hextract]
    refine Prod.ext (String.toList_inj.1 ?_) rfl
    rw [Extraction.toList_join_fill, String.toList_ofList, Extraction.text, List.flatMap_map]

/-- A nested sigil and one with a letter of two bytes, in plain text with a quote and closing
brackets. -/
theorem extract_embedded_stray :
    let e : Extraction := ⟨[⟨"]'é".toList, "[A=[B]]".toList⟩, ⟨[], "[é]".toList⟩], "]".toList⟩
    Delimiters.square.Single ∧ (∀ gap ∈ e.gaps, ¬ Delimiters.square.opening <:+: gap) ∧
    (∀ sigil ∈ e.sigils, (Delimiters.square.extract sigil).sigils = [sigil]) ∧
    (Delimiters.square.extract "]'é[A=[B]][é]]").sigils = ["[A=[B]]", "[é]"] ∧
    (Delimiters.square.extract "]'é[A=[B]][é]]").spans[1]? = some ⟨11, 15⟩ ∧
    Delimiters.square.hide "?" "]'é[A=[B]][é]]" = ("]'é??]", ["[A=[B]]", "[é]"]) := by
  intro e
  have hd : Delimiters.square.Single := ⟨rfl, rfl⟩
  have hplain : ∀ gap ∈ e.gaps, ¬ Delimiters.square.opening <:+: gap := by decide
  have hself (sigil inside : List Char) (heq : sigil = '[' :: inside)
      (hclose : Delimiters.square.close? 0 inside = some (inside, []))
        (hq : balancesQuotes ('[' :: inside) = true) :
      (Delimiters.square.extract (String.ofList sigil)).sigils = [String.ofList sigil] := by
    have hscan := (Delimiters.isSigil_of_close? hclose hq).scan
    rw [Delimiters.extract, String.toList_ofList, heq]
    exact congrArg Extraction.sigils hscan
  have hsigil : ∀ sigil ∈ e.sigils, (Delimiters.square.extract sigil).sigils = [sigil] := by
    refine List.forall_mem_cons.2 ⟨hself _ ['A', '=', '[', 'B', ']', ']'] rfl ?_ (by decide),
      fun sigil hmem => ?_⟩
    · simp [Delimiters.close?, stripStart?, Delimiters.square]
    · cases List.mem_singleton.1 hmem
      refine hself _ ['é', ']'] rfl ?_ (by decide)
      simp [Delimiters.close?, stripStart?, Delimiters.square]
  obtain ⟨hsigils, -, hspans, hhide⟩ := extract_embedded hd hplain hsigil "?"
  exact ⟨hd, hplain, hsigil, hsigils, hspans [⟨"]'é".toList, "[A=[B]]".toList⟩] _ _ rfl, hhide⟩

end Interpolation
