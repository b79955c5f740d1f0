/-!
# Runs of characters

Runs of characters of a class at the beginning of a text. A run goes on as far as the class does, so
it ends where what follows begins with another character.
-/

namespace Interpolation.Text

variable {p : Char → Bool} {run cs rest : List Char}

theorem of_mem_takeWhile : ∀ c ∈ cs.takeWhile p, p c = true := List.all_eq_true.1 List.all_takeWhile

/-- All characters of a text are others than one that is not in it. -/
theorem forall_ne_of_not_mem {other : Char} (h : other ∉ cs) :
    ∀ c ∈ cs, decide (c ≠ other) = true :=
  fun _ hc => decide_eq_true fun heq => h (heq ▸ hc)

section
variable (hrun : ∀ c ∈ run, p c = true) (hrest : ∀ c ∈ rest.head?, p c = false)
include hrun hrest

theorem takeWhile_run : (run ++ rest).takeWhile p = run := by
  rw [List.takeWhile_append_of_pos hrun]
  cases rest with
  | nil => exact List.append_nil run
  | cons c rest => rw [List.takeWhile_cons_of_neg (by simp [hrest c rfl]), List.append_nil]

theorem dropWhile_run : (run ++ rest).dropWhile p = rest := by
  rw [List.dropWhile_append_of_pos hrun]
  cases rest with
  | nil => rfl
  | cons c rest => exact List.dropWhile_cons_of_neg (by simp [hrest c rfl])

end

end Interpolation.Text
