/-!
# Texts measured in bytes

Texts measured in bytes of UTF-8: the length of a text, cutting it at a byte offset, and regions
between two offsets. Cutting succeeds exactly on the boundaries between characters
(`splitAtByte?_eq_some`).
-/

namespace Interpolation

namespace Text

def byteLength : List Char → Nat
  | [] => 0
  | c :: cs => c.utf8Size + byteLength cs

@[simp] theorem byteLength_nil : byteLength [] = 0 := rfl

@[simp] theorem byteLength_cons (c : Char) (cs : List Char) :
    byteLength (c :: cs) = c.utf8Size + byteLength cs := rfl

@[simp] theorem byteLength_append (a b : List Char) :
    byteLength (a ++ b) = byteLength a + byteLength b := by
  induction a with
  | nil => simp
  | cons c cs ih => simp [ih, Nat.add_assoc]

theorem byteLength_eq_zero {cs : List Char} : byteLength cs = 0 ↔ cs = [] := by
  cases cs with
  | nil => simp
  | cons c cs => simpa using fun h => absurd h (Nat.ne_of_gt c.utf8Size_pos)

/-- The text before a byte offset and the text after it, nothing if the offset lies within a
character or past the end. -/
def splitAtByte? : Nat → List Char → Option (List Char × List Char)
  | 0, cs => some ([], cs)
  | _ + 1, [] => none
  | n + 1, c :: cs =>
    if c.utf8Size ≤ n + 1 then
      (splitAtByte? (n + 1 - c.utf8Size) cs).map fun (a, b) => (c :: a, b)
    else none

theorem splitAtByte?_append (a b : List Char) :
    splitAtByte? (byteLength a) (a ++ b) = some (a, b) := by
  induction a with
  | nil => simp [splitAtByte?]
  | cons c cs ih =>
    obtain ⟨n, hn⟩ : ∃ n, byteLength (c :: cs) = n + 1 :=
      Nat.exists_eq_succ_of_ne_zero fun h => by simpa using byteLength_eq_zero.1 h
    have hs : n + 1 - c.utf8Size = byteLength cs := by rw [← hn]; simp
    have hle : c.utf8Size ≤ n + 1 := by rw [← hn]; simp
    simp [hn, splitAtByte?, hle, hs, ih]

theorem eq_of_splitAtByte? {n : Nat} {cs a b : List Char} (h : splitAtByte? n cs = some (a, b)) :
    cs = a ++ b ∧ n = byteLength a := by
  induction cs generalizing n a b with
  | nil =>
    cases n with
    | zero => simp only [splitAtByte?, Option.some.injEq, Prod.mk.injEq] at h; simp [← h.1, ← h.2]
    | succ n => simp [splitAtByte?] at h
  | cons c cs ih =>
    cases n with
    | zero => simp only [splitAtByte?, Option.some.injEq, Prod.mk.injEq] at h; simp [← h.1, ← h.2]
    | succ n =>
      simp only [splitAtByte?] at h
      split at h <;> rename_i hle
      · obtain ⟨⟨a', b'⟩, hs, he⟩ := Option.map_eq_some_iff.1 h
        obtain ⟨rfl, hn⟩ := ih hs
        obtain ⟨rfl, rfl⟩ := Prod.mk.inj he
        exact ⟨rfl, by simp only [byteLength_cons]; omega⟩
      · exact absurd h (by simp)

theorem splitAtByte?_eq_some {n : Nat} {cs a b : List Char} :
    splitAtByte? n cs = some (a, b) ↔ cs = a ++ b ∧ n = byteLength a :=
  ⟨eq_of_splitAtByte?, fun ⟨hcs, hn⟩ => hcs ▸ hn ▸ splitAtByte?_append a b⟩

/-- The text between two byte offsets, nothing unless both lie on boundaries of the text in order.
-/
def slice? (start stop : Nat) (cs : List Char) : Option (List Char) :=
  if start ≤ stop then
    (splitAtByte? start cs).bind fun (_, rest) =>
      (splitAtByte? (stop - start) rest).map Prod.fst
  else none

end Text

/-- A region of a text, by the offsets of its ends in bytes. -/
structure Span where
  start : Nat
  stop : Nat
  deriving DecidableEq

/-- The least region that holds both. -/
def Span.join (a b : Span) : Span := ⟨min a.start b.start, max a.stop b.stop⟩

/-- The region as seen from a text in which it starts `offset` bytes earlier. -/
def Span.moveBack (offset : Nat) (a : Span) : Span := ⟨a.start - offset, a.stop - offset⟩

end Interpolation
