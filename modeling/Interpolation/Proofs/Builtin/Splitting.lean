import Interpolation.Builtin.Call
import Interpolation.Proofs.Purity
import Interpolation.Proofs.Text.Search
import Mathlib

/-!
# Splitting and joining

A text is split at the occurrences of a separator, the leftmost first and without overlaps, whether
the separator overlaps itself or not (`exists_occurrences`). No piece holds the separator, and the
pieces with the separator between them are the text (`join_split`).
-/

namespace Interpolation

namespace Text

variable {part cs : List Char}

/-! ## Occurrences -/

def OccursAt (part cs : List Char) (position : Nat) : Prop :=
  ∃ before after, cs = before ++ part ++ after ∧ before.length = position

/-- The positions of the occurrences of `part` in `cs`, from `start` on: each is the leftmost one
that begins where the one before it has ended, or after that. -/
inductive Occurrences (part cs : List Char) : (start : Nat) → List Nat → Prop where
  | done {start : Nat} (h : ∀ p, start ≤ p → ¬ OccursAt part cs p) : Occurrences part cs start []
  | next {start p : Nat} {ps : List Nat} (hle : start ≤ p) (hp : OccursAt part cs p)
    (hfirst : ∀ q, start ≤ q → OccursAt part cs q → p ≤ q)
    (hps : Occurrences part cs (p + part.length) ps) :
    Occurrences part cs start (p :: ps)

theorem Occurrences.unique {start : Nat} {ps qs : List Nat} (hps : Occurrences part cs start ps)
    (hqs : Occurrences part cs start qs) : ps = qs := by
  induction hps generalizing qs with
  | done h =>
    cases hqs with
    | done => rfl
    | next hle hq => exact absurd hq (h _ hle)
  | next hle hp hfirst _ ih =>
    cases hqs with
    | done h => exact absurd hp (h _ hle)
    | next hle' hq hfirst' hqs =>
      obtain rfl := Nat.le_antisymm (hfirst _ hle' hq) (hfirst' _ hle hp)
      rw [ih hqs]

/-- What occurs after the beginning of a text occurs in the rest of it. -/
theorem exists_eq_of_occursAt {before : List Char} {p : Nat} (h : OccursAt part (before ++ cs) p)
    (hle : before.length ≤ p) :
    ∃ b after, cs = b ++ part ++ after ∧ p = before.length + b.length := by
  obtain ⟨before', after, heq, rfl⟩ := h
  rw [List.append_assoc] at heq
  obtain ⟨b, rfl⟩ : before <+: before' :=
    List.prefix_of_prefix_length_le ⟨cs, rfl⟩ ⟨part ++ after, heq.symm⟩ hle
  rw [List.append_assoc, List.append_cancel_left_eq, ← List.append_assoc] at heq
  exact ⟨b, after, heq, List.length_append⟩

/-- Where `cutAt?` does not cut a text, there is nothing to cut it at. -/
theorem ne_of_cutAt?_eq_none (h : cutAt? part cs = none) (b a : List Char) :
    cs ≠ b ++ part ++ a := by
  rintro rfl
  have hsome := isSome_cutAt?_append b part a
  rw [h] at hsome
  cases hsome

/-- **A text is split at the occurrences of the separator.** There is one piece more than there are
`Occurrences`. -/
theorem exists_occurrences (hp : part ≠ []) (before cs : List Char) :
    ∃ ps, Occurrences part (before ++ cs) before.length ps ∧
    (splitOn part cs).length = ps.length + 1 := by
  fun_induction splitOn part cs generalizing before with
  | case1 _ hnil => exact absurd hnil hp
  | case2 cs _ hcut =>
    refine ⟨[], .done fun p hle hoccurs => ?_, rfl⟩
    obtain ⟨b, after, hcs, -⟩ := exists_eq_of_occursAt hoccurs hle
    exact ne_of_cutAt?_eq_none hcut b after hcs
  | case3 cs _ b after hcut _ ih =>
    obtain ⟨hcs, hleast⟩ := cutAt?_eq_some_iff.1 hcut
    obtain ⟨ps, hps, hlength⟩ := ih (before ++ b ++ part)
    have hwhole : before ++ b ++ part ++ after = before ++ cs := by rw [hcs]; simp
    rw [hwhole, List.length_append] at hps
    refine ⟨_, .next ?_ ⟨before ++ b, after, hwhole.symm, rfl⟩ (fun q hle hoccurs => ?_)
      hps, by simp [hlength]⟩
    · rw [List.length_append]
      exact Nat.le_add_right ..
    · obtain ⟨b', after', hcs', rfl⟩ := exists_eq_of_occursAt hoccurs hle
      rw [List.length_append]
      exact Nat.add_le_add_left (hleast b' after' hcs') _

/-! ## Pieces -/

theorem splitOn_ne_nil (part cs : List Char) : splitOn part cs ≠ [] := by
  unfold splitOn
  split
  · exact List.cons_ne_nil _ _
  · split <;> exact List.cons_ne_nil _ _

/-- No piece holds the separator. -/
theorem not_isInfix_of_mem_splitOn (hp : part ≠ []) {piece : List Char}
    (h : piece ∈ splitOn part cs) :
    ¬ part <:+: piece := by
  fun_induction splitOn part cs with
  | case1 _ hnil => exact absurd hnil hp
  | case2 cs _ hcut =>
    obtain rfl := List.mem_singleton.1 h
    rintro ⟨b, a, hpiece⟩
    exact ne_of_cutAt?_eq_none hcut b a hpiece.symm
  | case3 cs _ before after hcut _ ih =>
    rcases List.mem_cons.1 h with rfl | h
    · -- an occurrence in the piece would be further to the left than the one that ends it
      rintro ⟨b, a, rfl⟩
      have hcs : cs = b ++ part ++ (a ++ part ++ after) := by rw [eq_of_cutAt? hcut]; simp
      have hle := length_le_of_cutAt? hcut hcs
      have hlength := List.length_pos_iff.2 hp
      simp only [List.length_append] at hle
      omega
    · exact ih h

theorem joinWith_cons {pieces : List (List Char)} (h : pieces ≠ []) (sep piece : List Char) :
    joinWith sep (piece :: pieces) = piece ++ sep ++ joinWith sep pieces := by
  cases pieces with
  | nil => exact absurd rfl h
  | cons => rfl

/-- **What is split is put together again.** -/
theorem joinWith_splitOn (part cs : List Char) : joinWith part (splitOn part cs) = cs := by
  fun_induction splitOn part cs with
  | case1 => rfl
  | case2 => rfl
  | case3 cs _ before after hcut _ ih =>
    rw [joinWith_cons (splitOn_ne_nil _ _), ih, eq_of_cutAt? hcut]

end Text

/-! ## Calls -/

open Text

variable {σ : Type}

/-- Texts are written as they are. -/
theorem Value.formatAll_str (host : Host σ) (pieces : List String) :
    formatAll host (pieces.map .str) = pure pieces := by
  induction pieces with
  | nil => rfl
  | cons piece pieces ih =>
    rw [List.map_cons, formatAll, format, ih, pure_bind, pure_bind]

namespace Builtin

theorem splitText_of_ne {sep : String} (h : sep ≠ "") (s : String) :
    splitText s (some sep) = (splitOn sep.toList s.toList).map String.ofList := by
  rw [splitText, if_neg h]

theorem joinItems_splitText (host : Host σ) {sep : String} (h : sep ≠ "") (s : String) :
    joinItems host ((splitText s (some sep)).map .str) (some sep) = pure s := by
  have hpieces : ((splitOn sep.toList s.toList).map String.ofList).map String.toList =
      splitOn sep.toList s.toList := by
    rw [List.map_map]
    exact List.map_id'' (fun _ => String.toList_ofList) _
  rw [joinItems, Value.formatAll_str, splitText_of_ne h, pure_bind, Option.getD_some, hpieces,
    joinWith_splitOn, String.ofList_toList]

/-- **Splitting and joining are inverse.** Split a text at a separator that is not empty. No piece
holds the separator, joining the pieces with it gives the text, and there is one piece more than the
separator has occurrences, the leftmost first and without overlaps (`Occurrences`). -/
theorem join_split (host : Host σ) (s : String) {sep : String} (h : sep ≠ "") :
    ∃ pieces : List String,
      (∀ t, (host.callRef (.builtin .split) [.str s, .str sep]).run t =
        (.ok (.list (pieces.map .str)), t)) ∧
      (∀ t, (host.callRef (.builtin .join) [.list (pieces.map .str), .str sep]).run t =
        (.ok (.str s), t)) ∧
      (∀ piece ∈ pieces, ¬ sep.toList <:+: piece.toList) ∧
      ∃ positions, Occurrences sep.toList s.toList 0 positions ∧
      pieces.length = positions.length + 1 ∧
        ∀ others, Occurrences sep.toList s.toList 0 others → others = positions := by
  have hsep : sep.toList ≠ [] := fun hnil => h (String.toList_eq_nil_iff.1 hnil)
  refine ⟨splitText s (some sep), fun t => rfl, fun t => ?_, fun piece hpiece => ?_, ?_⟩
  · change (joinItems host ((splitText s (some sep)).map Value.str) (some sep) >>= fun joined =>
      pure (Value.str joined)).run t = _
    rw [joinItems_splitText _ h]
    rfl
  · rw [splitText_of_ne h] at hpiece
    obtain ⟨cs, hcs, rfl⟩ := List.mem_map.1 hpiece
    rw [String.toList_ofList]
    exact not_isInfix_of_mem_splitOn hsep hcs
  · obtain ⟨positions, hpositions, hlength⟩ := exists_occurrences hsep [] s.toList
    refine ⟨positions, hpositions, ?_, fun others hothers => hothers.unique hpositions⟩
    rw [splitText_of_ne h, List.length_map, hlength]

/-- A separator that overlaps itself, at both ends of a text. -/
theorem join_split_overlapping : ("aba" : String) ≠ "" ∧
    (Host.echo.callRef (.builtin .split) [.str "abababa", .str "aba"]).run () =
      (.ok (.list [.str "", .str "b", .str ""]), ()) ∧
    (Host.echo.callRef (.builtin .join) [.list [.str "", .str "b", .str ""], .str "aba"]).run () =
      (.ok (.str "abababa"), ()) := by
  have h : ("aba" : String) ≠ "" := by decide
  have hsplit : (Host.echo.callRef (.builtin .split) [.str "abababa", .str "aba"]).run () =
      (.ok (.list [.str "", .str "b", .str ""]), ()) := by cbv
  obtain ⟨pieces, hpieces, hjoin, -⟩ := join_split Host.echo "abababa" h
  have heq : Value.list (pieces.map .str) = .list [.str "", .str "b", .str ""] :=
    Except.ok.inj (Prod.mk.inj ((hpieces ()).symm.trans hsplit)).1
  exact ⟨h, hsplit, heq ▸ hjoin ()⟩

end Builtin
end Interpolation
