import Interpolation.Text.Search
import Mathlib.Data.List.Infix

/-!
# Where a text is found in another

Cutting finds the leftmost occurrence (`cutAt?_eq_some_iff`). A text has a border if one of its
proper beginnings is also an end of it; a text without a border does not overlap itself, so that it
is found where it was put, if it does not occur in what stands before (`cutAt?_of_not_hasBorder`).
-/

namespace Interpolation.Text

variable {part cs before after : List Char}

theorem isSome_cutAt?_append (before part after : List Char) :
    (cutAt? part (before ++ part ++ after)).isSome := by
  rw [List.append_assoc]
  exact occurs_append before part after

/-- No occurrence stands further to the left than the one that a text is cut at. -/
theorem length_le_of_cutAt? (h : cutAt? part cs = some (before, after)) {b a : List Char}
    (hcs : cs = b ++ part ++ a) : before.length ≤ b.length := by
  induction cs generalizing before b with
  | nil =>
    have := eq_of_cutAt? h
    simp_all
  | cons c cs ih =>
    rw [cutAt?] at h
    split at h
    · cases h
      exact Nat.zero_le _
    · next hnone =>
      obtain ⟨⟨before', after'⟩, hcut, heq⟩ := Option.map_eq_some_iff.1 h
      obtain ⟨rfl, rfl⟩ := Prod.mk.inj heq
      cases b with
      | nil =>
        rw [hcs, List.nil_append, stripStart?_append] at hnone
        cases hnone
      | cons c' b =>
        obtain ⟨-, htail⟩ := List.cons.inj hcs
        exact Nat.succ_le_succ (ih hcut htail)

/-- **`cutAt?` cuts a text at the leftmost occurrence.** -/
theorem cutAt?_eq_some_iff : cutAt? part cs = some (before, after) ↔
    cs = before ++ part ++ after ∧ ∀ b a, cs = b ++ part ++ a → before.length ≤ b.length := by
  constructor
  · intro h
    exact ⟨eq_of_cutAt? h, fun b a => length_le_of_cutAt? h⟩
  · rintro ⟨hcs, hleast⟩
    obtain ⟨⟨before', after'⟩, hcut⟩ :=
      Option.isSome_iff_exists.1 (isSome_cutAt?_append before part after)
    rw [← hcs] at hcut
    have hlength : before.length = before'.length :=
      Nat.le_antisymm (hleast _ _ (eq_of_cutAt? hcut)) (length_le_of_cutAt? hcut hcs)
    have heq := hcs.symm.trans (eq_of_cutAt? hcut)
    rw [List.append_assoc, List.append_assoc] at heq
    obtain ⟨rfl, hrest⟩ := List.append_inj heq hlength
    rw [hcut, List.append_cancel_left hrest]

/-- A beginning of the text that is neither empty nor all of it is also an end of it. -/
def HasBorder (p : List Char) : Prop := ∃ b, b ≠ [] ∧ b ≠ p ∧ b <+: p ∧ b <:+ p

instance : DecidablePred HasBorder := fun p =>
  decidable_of_iff (∃ b ∈ p.inits, b ≠ [] ∧ b ≠ p ∧ b <:+ p) (by
    simp only [HasBorder, List.mem_inits]
    exact ⟨fun ⟨b, hb, hne, hp, hs⟩ => ⟨b, hne, hp, hb, hs⟩,
      fun ⟨b, hne, hp, hb, hs⟩ => ⟨b, hb, hne, hp, hs⟩⟩)

/-- A text that occurs again after it has begun and before it has ended has a border
(`HasBorder`). -/
theorem hasBorder_of_overlap {p m rest more : List Char} (hm : m ≠ [])
    (hlength : m.length < p.length) (h : m ++ (p ++ rest) = p ++ more) : HasBorder p := by
  rcases List.append_eq_append_iff.1 h with ⟨o, rfl, hrest⟩ | ⟨o, rfl, -⟩
  · refine ⟨o, ?_, ?_, ?_, List.suffix_append ..⟩
    · rintro rfl
      simp at hlength
    · intro ho
      exact hm (List.self_eq_append_left.1 ho)
    · refine List.prefix_of_prefix_length_le (List.prefix_append o more) ?_
        (List.suffix_append m o).length_le
      rw [← hrest]
      exact List.prefix_append ..
  · rw [List.length_append] at hlength
    omega

/-- **A text without a border is found where it was put**, if it does not occur in what stands
before. -/
theorem cutAt?_of_not_hasBorder {p plain : List Char} (hp : ¬ HasBorder p) (hplain : ¬ p <:+: plain)
    (rest : List Char) : cutAt? p (plain ++ p ++ rest) = some (plain, rest) := by
  refine cutAt?_eq_some_iff.2 ⟨rfl, fun b a h => Nat.le_of_not_lt fun hlt => ?_⟩
  -- an occurrence further to the left begins in `plain`, and it ends there too or overlaps what was
  -- put
  rw [List.append_assoc, List.append_assoc] at h
  rcases List.append_eq_append_iff.1 h with ⟨m, rfl, -⟩ | ⟨m, rfl, hm⟩
  · rw [List.length_append] at hlt
    omega
  · have hne : m ≠ [] := by
      rintro rfl
      simp at hlt
    rcases Nat.lt_or_ge m.length p.length with hlength | hlength
    · exact hp (hasBorder_of_overlap hne hlength hm.symm)
    · obtain ⟨m', rfl⟩ : p <+: m :=
        List.prefix_of_prefix_length_le (List.prefix_append p a)
          (hm ▸ List.prefix_append ..) hlength
      exact hplain ⟨b, m', by rw [List.append_assoc]⟩

end Interpolation.Text
