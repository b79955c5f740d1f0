import Interpolation.Proofs.Extraction.Pieces
import Interpolation.Proofs.Text.Search

/-!
# Hiding sigils and putting them back

Hiding sigils behind a pattern and putting them back. The pattern is looked for from the left, so
the sigils come back to where they were if each pattern that was put in is found where it was put.
It is, if the pattern occurs in no gap between the sigils and has no border; a pattern with a border
overlaps itself, and then there is a text in which it is found too early (`restore_hide`).
-/

namespace Interpolation

open Text

namespace Extraction

/-- The plain texts before, between and after the sigils. -/
def gaps (e : Extraction) : List (List Char) := e.pieces.map Piece.plain ++ [e.tail]

theorem prepend_nil (e : Extraction) : e.prepend [] = e := by
  obtain ⟨pieces, tail⟩ := e
  cases pieces <;> rfl

theorem prepend_prepend (e : Extraction) (before plain : List Char) :
    (e.prepend plain).prepend before = e.prepend (before ++ plain) := by
  obtain ⟨pieces, tail⟩ := e
  cases pieces <;> simp [prepend]

theorem toList_join_fill (e : Extraction) (f : String → String) : (String.join (e.fill f)).toList =
    e.pieces.flatMap (fun p => p.plain ++ (f (String.ofList p.sigil)).toList) ++ e.tail := by
  simp [fill, List.flatMap_assoc]

/-- Sigils are filled in by what stands in their place, and by nothing else of a function. -/
theorem fill_congr {e : Extraction} {f g : String → String}
    (h : ∀ sigil ∈ e.sigils, f sigil = g sigil) :
    e.fill f = e.fill g := by
  rw [fill, fill]
  congr 1
  exact List.flatMap_congr fun p hp => by rw [h _ (List.mem_map_of_mem hp)]

end Extraction

/-- Sigils that stay as they are leave the text as it is. -/
theorem Delimiters.join_fill_self (d : Delimiters) (text : String) :
    String.join ((d.extract text).fill fun sigil => sigil) = text := by
  refine String.toList_inj.1 ?_
  rw [Extraction.toList_join_fill]
  simp only [String.toList_ofList]
  exact d.text_scan text.toList

/-- **Every pattern without a border is found where it was put**, one after the other. -/
theorem restoreFrom_hidden {p : List Char} {e : Extraction} (hp : ¬ HasBorder p)
    (hgaps : ∀ gap ∈ e.gaps, ¬ p <:+: gap) :
    restoreFrom p e.sigils (e.pieces.flatMap (fun q => q.plain ++ p) ++ e.tail) = e.text := by
  obtain ⟨pieces, tail⟩ := e
  induction pieces with
  | nil => rfl
  | cons q qs ih =>
    obtain ⟨hplain, hmore⟩ := List.forall_mem_cons.1 hgaps
    have hcut := cutAt?_of_not_hasBorder hp hplain (qs.flatMap (fun q => q.plain ++ p) ++ tail)
    have hrest := ih hmore
    simp only [Extraction.sigils, Extraction.text] at hrest ⊢
    rw [List.flatMap_cons, List.append_assoc, List.map_cons, restoreFrom, hcut]
    dsimp only
    rw [hrest, String.toList_ofList, List.flatMap_cons, List.append_assoc, List.append_assoc,
      List.append_assoc]

namespace Delimiters

variable {d : Delimiters} {c : Char} {cs : List Char}

/-- One character is not at the beginning of a text because the first one is another. -/
theorem stripStart?_eq_none_of_single {part : List Char} (hp : part.length = 1)
    (h : stripStart? part (c :: cs) = none) (cs' : List Char) :
    stripStart? part (c :: cs') = none := by
  obtain ⟨p, rfl⟩ := List.length_eq_one_iff.1 hp
  rw [stripStart?] at h
  split at h
  · cases h
  · next hne => exact if_neg hne

/-- Without an opening delimiter a text is plain, whatever comes after it. -/
theorem scan_of_no_opening (hd : d.opening.length = 1) {plain : List Char}
    (h : ¬ d.opening <:+: plain) (rest : List Char) :
    d.scan (plain ++ rest) = (d.scan rest).prepend plain := by
  induction plain with
  | nil => rw [List.nil_append, Extraction.prepend_nil]
  | cons c plain ih =>
    have hopening : stripStart? d.opening (c :: plain) = none := by
      refine Option.eq_none_iff_forall_ne_some.2 fun after hafter => h ?_
      rw [stripStart?_eq_some.1 hafter]
      exact (List.prefix_append ..).isInfix
    have hplain : ¬ d.opening <:+: plain :=
      fun hwithin => h (hwithin.trans (List.suffix_cons c plain).isInfix)
    rw [List.cons_append, scan_of_none (stripStart?_eq_none_of_single hd hopening _), ih hplain,
      Extraction.prepend_prepend, List.singleton_append]

end Delimiters

theorem extract_sigil_after {plain : List Char} (h : '[' ∉ plain) :
    Delimiters.square.extract (String.ofList (plain ++ ['[', 'A', ']'])) =
      ⟨[⟨plain, ['[', 'A', ']']⟩], []⟩ := by
  have hsigil : Delimiters.square.extract "[A]" = ⟨[⟨[], ['[', 'A', ']']⟩], []⟩ :=
    Delimiters.extract_square ['A'] rfl (by simp) rfl
  change Delimiters.square.scan ['[', 'A', ']'] = _ at hsigil
  have hplain : ¬ Delimiters.square.opening <:+: plain :=
    fun hwithin => h (hwithin.subset List.mem_cons_self)
  rw [Delimiters.extract, String.toList_ofList, Delimiters.scan_of_no_opening rfl hplain, hsigil]
  simp [Extraction.prepend]

/-- A pattern with a border is found too early where it is put after what stands before its border.
-/
theorem exists_not_restored {p : String} (hborder : HasBorder p.toList)
    (hopening : '[' ∉ p.toList) :
    ∃ text, (∀ gap ∈ (Delimiters.square.extract text).gaps, ¬ p.toList <:+: gap) ∧
      restore p (Delimiters.square.hide p text).2 (Delimiters.square.hide p text).1 ≠ text := by
  obtain ⟨b, hb, hne, ⟨x, hx⟩, ⟨y, hy⟩⟩ := hborder
  have hyne : y ≠ [] := by
    rintro rfl
    exact hne hy
  have hplain : '[' ∉ y := fun h => hopening (hy ▸ List.mem_append_left _ h)
  have hextract := extract_sigil_after hplain
  have hlength : y.length < p.toList.length := by
    rw [← hy, List.length_append]
    exact Nat.lt_add_of_pos_right (List.length_pos_iff.2 hb)
  refine ⟨String.ofList (y ++ ['[', 'A', ']']), ?_, ?_⟩
  · rw [hextract]
    refine List.forall_mem_cons.2 ⟨fun h => absurd h.length_le (Nat.not_le.2 hlength), ?_⟩
    exact List.forall_mem_singleton.2 fun h =>
      absurd h.length_le (Nat.not_le.2 (Nat.zero_lt_of_lt hlength))
  · have hcut : cutAt? p.toList (y ++ p.toList) = some ([], x) := by
      refine cutAt?_eq_some_iff.2 ⟨?_, fun _ _ _ => Nat.zero_le _⟩
      rw [List.nil_append]
      conv_lhs => rw [← hx, ← List.append_assoc, hy]
    have hp : p ≠ "" := by
      rintro rfl
      exact absurd hlength (Nat.not_lt_zero _)
    have hfirst : (y ++ ['[', 'A', ']']).head? ≠ some '[' := by
      rw [List.head?_append_of_ne_nil _ hyne]
      exact fun h => hplain (List.mem_of_head? h)
    rw [restore, if_neg hp, Delimiters.hide, hextract]
    dsimp only
    rw [Extraction.toList_join_fill]
    intro heq
    refine hfirst ?_
    rw [← String.ofList_inj.1 heq]
    simp [Extraction.sigils, restoreFrom, hcut]

/-- **Hiding sigils and putting them back.** A pattern that has no border (`HasBorder`) gives every
text back in whose `gaps` it does not occur, between any delimiters. Between square brackets, and
for patterns without an opening one, no other pattern does. -/
theorem restore_hide {p : String} (hp : p ≠ "") :
    (¬ HasBorder p.toList → ∀ (d : Delimiters) (text : String),
      (∀ gap ∈ (d.extract text).gaps, ¬ p.toList <:+: gap) →
      restore p (d.hide p text).2 (d.hide p text).1 = text) ∧
    ('[' ∉ p.toList → ((∀ text : String, (∀ gap ∈ (Delimiters.square.extract text).gaps,
      ¬ p.toList <:+: gap) →
      restore p (Delimiters.square.hide p text).2 (Delimiters.square.hide p text).1 = text) ↔
        ¬ HasBorder p.toList)) := by
  have hback (hborder : ¬ HasBorder p.toList) (d : Delimiters) (text : String)
      (hgaps : ∀ gap ∈ (d.extract text).gaps, ¬ p.toList <:+: gap) :
      restore p (d.hide p text).2 (d.hide p text).1 = text := by
    rw [restore, if_neg hp, Delimiters.hide]
    dsimp only
    rw [Extraction.toList_join_fill, restoreFrom_hidden hborder hgaps, Delimiters.extract,
      Delimiters.text_scan,
      String.ofList_toList]
  refine ⟨hback, fun hopening => ⟨fun h hborder => ?_,
    fun hborder text => hback hborder .square text⟩⟩
  obtain ⟨text, hgaps, hne⟩ := exists_not_restored hborder hopening
  exact hne (h text hgaps)

/-- A pattern that begins in the text before the sigil as well. -/
theorem restore_hide_percent : "%s" ≠ "" ∧ ¬ HasBorder "%s".toList ∧
    (∀ gap ∈ (Delimiters.square.extract "5%[A]").gaps, ¬ "%s".toList <:+: gap) ∧
    restore "%s" (Delimiters.square.hide "%s" "5%[A]").2
      (Delimiters.square.hide "%s" "5%[A]").1 = "5%[A]" := by
  have hne : "%s" ≠ "" := by decide
  have hborder : ¬ HasBorder "%s".toList := by decide
  have hgaps : ∀ gap ∈ (Delimiters.square.extract "5%[A]").gaps, ¬ "%s".toList <:+: gap := by
    rw [show "5%[A]" = String.ofList (['5', '%'] ++ ['[', 'A', ']']) from rfl,
      extract_sigil_after (by decide)]
    decide
  exact ⟨hne, hborder, hgaps, (restore_hide hne).1 hborder .square "5%[A]" hgaps⟩

end Interpolation
