import Interpolation.Text.Utf8

/-!
# Regions of a text

A text can be cut at the boundaries between its characters, and a region from one boundary to
another can be cut out of it (`Span.IsRegion.slice`). The least region that holds two regions is a
region.
-/

namespace Interpolation

namespace Text

theorem slice?_append (before region after : List Char) :
    slice? (byteLength before) (byteLength (before ++ region))
      (before ++ region ++ after) = some region := by
  rw [slice?, byteLength_append, if_pos (Nat.le_add_right ..), List.append_assoc,
    splitAtByte?_append]
  change (splitAtByte? _ (region ++ after)).map Prod.fst = _
  rw [Nat.add_sub_cancel_left, splitAtByte?_append]
  rfl

/-- A region that is cut out of a text is within it. -/
theorem bounds_of_slice? {start stop : Nat} {cs region : List Char}
    (h : slice? start stop cs = some region) :
    stop = start + byteLength region ∧ stop ≤ byteLength cs := by
  unfold slice? at h
  split at h
  · next hle =>
    obtain ⟨⟨before, rest⟩, hbefore, h⟩ := Option.bind_eq_some_iff.1 h
    obtain ⟨⟨_, after⟩, hregion, rfl⟩ := Option.map_eq_some_iff.1 h
    obtain ⟨rfl, rfl⟩ := splitAtByte?_eq_some.1 hbefore
    obtain ⟨rfl, hstop⟩ := splitAtByte?_eq_some.1 hregion
    simp only [byteLength_append]
    omega
  · cases h

/-- A text can be cut at the offset `n`, which is one of its ends or between two characters. -/
def IsBoundary (cs : List Char) (n : Nat) :
    Prop := ∃ before after, cs = before ++ after ∧ n = byteLength before

namespace IsBoundary

variable {cs : List Char} {n : Nat}

theorem zero (cs : List Char) : IsBoundary cs 0 := ⟨[], cs, rfl, rfl⟩

theorem length (cs : List Char) :
    IsBoundary cs (byteLength cs) := ⟨cs, [], (List.append_nil cs).symm, rfl⟩

theorem le (h : IsBoundary cs n) : n ≤ byteLength cs := by
  obtain ⟨before, after, rfl, rfl⟩ := h
  rw [byteLength_append]
  exact Nat.le_add_right ..

end IsBoundary
end Text

open Text

/-- The region begins and ends on boundaries of the text. -/
structure Span.IsRegion (s : Span) (cs : List Char) : Prop where
  le : s.start ≤ s.stop
  start : IsBoundary cs s.start
  stop : IsBoundary cs s.stop

namespace Span.IsRegion

variable {s t : Span} {cs : List Char}

theorem append (before region after : List Char) :
    IsRegion ⟨byteLength before, byteLength before + byteLength region⟩
      (before ++ (region ++ after)) where
  le := Nat.le_add_right ..
  start := ⟨before, region ++ after, rfl, rfl⟩
  stop := ⟨before ++ region, after, (List.append_assoc ..).symm, (byteLength_append ..).symm⟩

theorem whole (cs : List Char) :
    IsRegion ⟨0, byteLength cs⟩ cs := ⟨Nat.zero_le _, .zero cs, .length cs⟩

theorem atEnd (cs : List Char) :
    IsRegion ⟨byteLength cs, byteLength cs⟩ cs := ⟨Nat.le_refl _, .length cs, .length cs⟩

theorem join (hs : s.IsRegion cs) (ht : t.IsRegion cs) : (s.join t).IsRegion cs where
  le := Nat.le_trans (Nat.min_le_left ..) (Nat.le_trans hs.le (Nat.le_max_left ..))
  start := by
    change IsBoundary cs (min s.start t.start)
    rcases Nat.le_total s.start t.start with h | h
    · rw [Nat.min_eq_left h]
      exact hs.start
    · rw [Nat.min_eq_right h]
      exact ht.start
  stop := by
    change IsBoundary cs (max s.stop t.stop)
    rcases Nat.le_total s.stop t.stop with h | h
    · rw [Nat.max_eq_right h]
      exact ht.stop
    · rw [Nat.max_eq_left h]
      exact hs.stop

/-- **A region can be cut out of the text** by `slice?`. -/
theorem slice (h : s.IsRegion cs) : ∃ region, slice? s.start s.stop cs = some region := by
  obtain ⟨hle, ⟨before, after, rfl, hstart⟩, before', after', heq, hstop⟩ := h
  rw [hstart, hstop] at hle
  -- of two ways to cut the text, the one at the lesser offset cuts the part before the other
  obtain ⟨region, rfl⟩ : ∃ region, before' = before ++ region := by
    rcases List.append_eq_append_iff.1 heq with ⟨region, hregion, -⟩ | ⟨region, rfl, -⟩
    · exact ⟨region, hregion⟩
    · rw [byteLength_append] at hle
      have hnil : region = [] := byteLength_eq_zero.1 (by omega)
      exact ⟨[], by rw [hnil, List.append_nil, List.append_nil]⟩
  rw [hstart, hstop, heq]
  exact ⟨region, slice?_append ..⟩

end Span.IsRegion
end Interpolation
