/-!
# Looking for a text within a text

Occurrences are leftmost and do not overlap.
-/

namespace Interpolation.Text

/-- The rest of a text that starts with `part`. -/
def stripStart? : (part cs : List Char) → Option (List Char)
  | [], cs => some cs
  | _ :: _, [] => none
  | p :: part, c :: cs => if p = c then stripStart? part cs else none

theorem stripStart?_eq_some {part cs rest : List Char} :
    stripStart? part cs = some rest ↔ cs = part ++ rest := by
  induction part generalizing cs with
  | nil => simp [stripStart?]
  | cons p part ih =>
    cases cs with
    | nil => simp [stripStart?]
    | cons c cs =>
      simp only [stripStart?, List.cons_append, List.cons.injEq]
      split <;> rename_i h
      · simp [h, ih]
      · simp [Ne.symm h]

@[simp] theorem stripStart?_append (part rest : List Char) :
    stripStart? part (part ++ rest) = some rest := stripStart?_eq_some.2 rfl

theorem length_lt_of_stripStart? {part cs rest : List Char} (hp : part ≠ [])
    (h : stripStart? part cs = some rest) : rest.length < cs.length := by
  have := List.length_pos_iff.2 hp
  rw [stripStart?_eq_some.1 h, List.length_append]
  omega

/-- The text before the first occurrence of `part` and the text after it. -/
def cutAt? (part : List Char) : List Char → Option (List Char × List Char)
  | [] => if part.isEmpty then some ([], []) else none
  | c :: cs =>
    match stripStart? part (c :: cs) with
    | some after => some ([], after)
    | none => (cutAt? part cs).map fun (before, after) => (c :: before, after)

theorem eq_of_cutAt? {part cs before after : List Char}
    (h : cutAt? part cs = some (before, after)) :
    cs = before ++ part ++ after := by
  induction cs generalizing before with
  | nil =>
    cases part with
    | nil => simp only [cutAt?] at h; simp_all
    | cons => simp [cutAt?] at h
  | cons c cs ih =>
    simp only [cutAt?] at h
    split at h
    · next hp =>
      simp only [Option.some.injEq, Prod.mk.injEq] at h
      obtain ⟨rfl, rfl⟩ := h
      exact stripStart?_eq_some.1 hp
    · obtain ⟨⟨b, a⟩, hc, he⟩ := Option.map_eq_some_iff.1 h
      obtain ⟨rfl, rfl⟩ := Prod.mk.inj he
      simp [ih hc]

theorem length_after_lt {part cs before after : List Char} (hp : part ≠ [])
    (h : cutAt? part cs = some (before, after)) : after.length < cs.length := by
  have := List.length_pos_iff.2 hp
  rw [eq_of_cutAt? h]
  simp only [List.length_append]
  omega

def occurs (part cs : List Char) : Bool := (cutAt? part cs).isSome

theorem occurs_append (before part after : List Char) :
    occurs part (before ++ (part ++ after)) = true := by
  unfold occurs
  induction before with
  | nil =>
    cases hcs : part ++ after with
    | nil =>
      obtain ⟨rfl, -⟩ := List.append_eq_nil_iff.1 hcs
      rfl
    | cons c cs =>
      have hs : stripStart? part (c :: cs) = some after := stripStart?_eq_some.2 hcs.symm
      simp only [List.nil_append, cutAt?, hs]
      rfl
  | cons c before ih =>
    simp only [List.cons_append, cutAt?]
    split
    · rfl
    · simpa using ih

/-- The pieces of a text between the occurrences of `sep`. An empty separator cuts nothing. -/
def splitOn (sep cs : List Char) : List (List Char) :=
  if hp : sep = [] then [cs]
  else
    match h : cutAt? sep cs with
    | none => [cs]
    | some (before, after) =>
      have : after.length < cs.length := length_after_lt hp h
      before :: splitOn sep after
termination_by cs.length

def joinWith (sep : List Char) : List (List Char) → List Char
  | [] => []
  | [piece] => piece
  | piece :: pieces => piece ++ sep ++ joinWith sep pieces

end Interpolation.Text
