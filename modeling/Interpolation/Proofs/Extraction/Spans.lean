import Interpolation.Proofs.Extraction.Octets
import Interpolation.Proofs.Text.Regions

/-!
# Where the sigils of a text are

Their regions follow one another, and the text can be cut at their ends. What stands in a region is
the sigil, and what stands in a gap between regions is plain text, also when it is extracted from
alone (`extract_spans`).
-/

namespace Interpolation

open Text

namespace Extraction

/-- The regions that some regions leave of a text: before the first of them, between two of them,
and after the last. -/
def gapsFrom (offset length : Nat) : List Span → List Span
  | [] => [⟨offset, length⟩]
  | s :: ss => ⟨offset, s.start⟩ :: gapsFrom s.stop length ss

theorem le_start_of_mem_spansFrom {offset : Nat} {ps : List Piece} {s : Span}
    (h : s ∈ spansFrom offset ps) :
    offset ≤ s.start := by
  induction ps generalizing offset with
  | nil => cases h
  | cons p ps ih =>
    rcases List.mem_cons.1 h with rfl | h
    · exact Nat.le_add_right ..
    · have := ih h
      omega

/-- The regions of sigils follow one another. -/
theorem pairwise_spansFrom (offset : Nat) (ps : List Piece) :
    (spansFrom offset ps).Pairwise fun a b => a.stop ≤ b.start := by
  induction ps generalizing offset with
  | nil => exact .nil
  | cons p ps ih => exact .cons (fun s hs => le_start_of_mem_spansFrom hs) (ih _)

section
variable {whole before : List Char} {pieces : List Piece} {tail : List Char}
  (hw : whole = before ++ text ⟨pieces, tail⟩)
include hw

/-- In the regions of `spansFrom` stand the sigils. -/
theorem map_slice?_spansFrom :
    (spansFrom (byteLength before) pieces).map (fun s => slice? s.start s.stop whole) =
      pieces.map (fun p => some p.sigil) := by
  induction pieces generalizing before with
  | nil => rfl
  | cons p ps ih =>
    have hsigil : whole = before ++ p.plain ++ p.sigil ++ text ⟨ps, tail⟩ := by
      rw [hw]
      simp only [text, List.flatMap_cons, List.append_assoc]
    have hrest := ih hsigil
    have hslice := slice?_append (before ++ p.plain) p.sigil (text ⟨ps, tail⟩)
    rw [← hsigil] at hslice
    simp only [byteLength_append] at hrest hslice
    simp only [spansFrom, List.map_cons, hslice, hrest]

/-- In the regions of `gapsFrom` stands the plain text. -/
theorem map_slice?_gapsFrom :
    (gapsFrom (byteLength before) (byteLength whole) (spansFrom (byteLength before) pieces)).map
        (fun s => slice? s.start s.stop whole) =
      pieces.map (fun p => some p.plain) ++ [some tail] := by
  induction pieces generalizing before with
  | nil =>
    have htail := slice?_append before tail []
    have hwhole : whole = before ++ tail := hw
    rw [List.append_nil, ← hwhole] at htail
    simp only [spansFrom, gapsFrom, List.map_cons, List.map_nil, htail, List.nil_append]
  | cons p ps ih =>
    have hplain : whole = before ++ p.plain ++ (p.sigil ++ text ⟨ps, tail⟩) := by
      rw [hw]
      simp only [text, List.flatMap_cons, List.append_assoc]
    have hrest := @ih (before ++ p.plain ++ p.sigil) (by rw [hplain]; simp only [List.append_assoc])
    have hslice := slice?_append before p.plain (p.sigil ++ text ⟨ps, tail⟩)
    rw [← hplain] at hslice
    simp only [byteLength_append] at hrest hslice
    simp only [spansFrom, gapsFrom, List.map_cons, hslice, hrest, List.cons_append]

end

end Extraction

namespace Delimiters

theorem Plain.spans {d : Delimiters} {cs : List Char} (h : d.Plain cs) :
    (d.extract (String.ofList cs)).spans = [] := by
  rw [extract, String.toList_ofList, h]
  rfl

theorem IsSigil.spans {d : Delimiters} {sigil : String} (h : d.IsSigil sigil.toList) :
    (d.extract sigil).spans = [⟨0, byteLength sigil.toList⟩] := by
  rw [extract, h.scan]
  simp [Extraction.spans, Extraction.spansFrom]

/-- **Where sigils are extracted.** The regions of the sigils of a text are those that are found
byte by byte (`regions`). They are not empty, follow one another and lie within the text, which can
be cut at their ends. In each stands a sigil: it begins and ends with its delimiters, has its quotes
in pairs, and is extracted as a whole from itself. From what stands in the gaps that the regions
leave nothing is extracted. -/
theorem extract_spans (d : Delimiters) (text : String) :
    (d.extract text).spans = d.regions (octets text) ∧
    (d.extract text).spans.Pairwise (fun a b => a.stop ≤ b.start) ∧
    (∀ s ∈ (d.extract text).spans, s.start < s.stop ∧ s.stop ≤ byteLength text.toList) ∧
    (d.extract text).spans.map (fun s => slice? s.start s.stop text.toList) =
      (d.extract text).sigils.map (fun sigil => some sigil.toList) ∧
    (∀ sigil ∈ (d.extract text).sigils,
      d.opening <+: sigil.toList ∧ d.closing <:+ sigil.toList ∧
      sigil.toList.count '\'' % 2 = 0 ∧ sigil.toList.count '"' % 2 = 0 ∧
      (d.extract sigil).spans = [⟨0, byteLength sigil.toList⟩]) ∧
    ∀ gap ∈ Extraction.gapsFrom 0 (byteLength text.toList) (d.extract text).spans,
      ∃ cs, slice? gap.start gap.stop text.toList = some cs ∧
      (d.extract (String.ofList cs)).spans = [] := by
  have hsound : (d.extract text).Sound d := d.scan_sound text.toList
  have hwhole : text.toList = [] ++ (d.extract text).text := (d.text_scan text.toList).symm
  have hslices : (d.extract text).spans.map (fun s => slice? s.start s.stop text.toList) =
      (d.extract text).pieces.map (fun p => some p.sigil) := Extraction.map_slice?_spansFrom hwhole
  have hgaps : (Extraction.gapsFrom 0 (byteLength text.toList) (d.extract text).spans).map
        (fun s => slice? s.start s.stop text.toList) =
      (d.extract text).pieces.map (fun p => some p.plain) ++ [some (d.extract text).tail] :=
    Extraction.map_slice?_gapsFrom hwhole
  have hsigil : ∀ sigil ∈ (d.extract text).sigils, d.IsSigil sigil.toList := by
    intro sigil hmem
    obtain ⟨p, hp, rfl⟩ := List.mem_map.1 hmem
    rw [String.toList_ofList]
    exact hsound.sigil p hp
  refine ⟨(d.regions_eq_spans text).symm, Extraction.pairwise_spansFrom .., fun s hs => ?_, ?_,
    fun sigil hmem => ?_,
    fun gap hgap => ?_⟩
  · have hmem := List.mem_map_of_mem (f := fun s => slice? s.start s.stop text.toList) hs
    rw [hslices] at hmem
    obtain ⟨p, hp, hslice⟩ := List.mem_map.1 hmem
    obtain ⟨hstop, hle⟩ := bounds_of_slice? hslice.symm
    have hpos : byteLength p.sigil ≠ 0 := fun h => by
      have := (hsound.sigil p hp).opening
      rw [byteLength_eq_zero.1 h] at this
      exact d.opening_ne_nil (List.prefix_nil.1 this)
    omega
  · rw [hslices, Extraction.sigils, List.map_map]
    exact List.map_congr_left fun p _ => by simp
  · have h := hsigil sigil hmem
    have hquotes := h.balances
    simp only [balancesQuotes, Bool.and_eq_true, beq_iff_eq] at hquotes
    exact ⟨h.opening, h.closing, hquotes.1, hquotes.2, h.spans⟩
  · have hmem := List.mem_map_of_mem (f := fun s => slice? s.start s.stop text.toList) hgap
    rw [hgaps] at hmem
    rcases List.mem_append.1 hmem with hmem | hmem
    · obtain ⟨p, hp, hslice⟩ := List.mem_map.1 hmem
      exact ⟨p.plain, hslice.symm, (hsound.plain p hp).spans⟩
    · exact ⟨(d.extract text).tail, List.mem_singleton.1 hmem, hsound.tail.spans⟩

end Delimiters
end Interpolation
