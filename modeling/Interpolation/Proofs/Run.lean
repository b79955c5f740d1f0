/-!
# Runs of computations that keep a state and may fail

Runs of computations that keep a state and may fail, step by step. What a computation changed before
it failed stays changed, also where the failure is caught.
-/

namespace Interpolation

variable {ε τ α β : Type}

theorem run_get_bind (f : τ → ExceptT ε (StateM τ) α) (s : τ) :
    ((get : ExceptT ε (StateM τ) τ) >>= f).run s = (f s).run s := rfl

/-- What looks at the state cannot fail. -/
theorem run_liftM_of_run {x : StateM τ α} {s t : τ} {a : α} (h : x.run s = (a, t)) :
    (liftM x : ExceptT ε (StateM τ) α).run s = (.ok a, t) :=
  congrArg (fun r : α × τ => (Except.ok r.1, r.2)) h

theorem run_bind_of_ok {x : ExceptT ε (StateM τ) α} {f : α → ExceptT ε (StateM τ) β} {s t : τ}
    {a : α} (h : x.run s = (.ok a, t)) : (x >>= f).run s = (f a).run t := by
  change (do let (r, t) ← x.run s; ExceptT.bindCont f r t : Id _) = _
  rw [h]
  rfl

theorem run_bind_of_error {x : ExceptT ε (StateM τ) α} {f : α → ExceptT ε (StateM τ) β} {s t : τ}
    {e : ε} (h : x.run s = (.error e, t)) : (x >>= f).run s = (.error e, t) := by
  change (do let (r, t) ← x.run s; ExceptT.bindCont f r t : Id _) = _
  rw [h]
  rfl

/-- What gives a value has gone through one. -/
theorem exists_run_of_bind_eq_ok {x : ExceptT ε (StateM τ) α} {f : α → ExceptT ε (StateM τ) β}
    {s t : τ} {b : β} (h : (x >>= f).run s = (.ok b, t)) :
    ∃ a s', x.run s = (.ok a, s') ∧ (f a).run s' = (.ok b, t) := by
  rcases hx : x.run s with ⟨e | a, s'⟩
  · rw [run_bind_of_error hx] at h
    cases h
  · rw [run_bind_of_ok hx] at h
    exact ⟨a, s', rfl, h⟩

theorem run_map (x : ExceptT ε (StateM τ) α) (f : α → β) (s : τ) :
    (f <$> x).run s = ((x.run s).1.map f, (x.run s).2) := by
  rw [← bind_pure_comp]
  rcases h : x.run s with ⟨_ | a, t⟩
  · exact run_bind_of_error h
  · exact run_bind_of_ok h

theorem run_adapt {ε' : Type} (x : ExceptT ε (StateM τ) α) (f : ε → ε') (s : τ) :
    (x.adapt f).run s = ((x.run s).1.mapError f, (x.run s).2) := rfl

theorem run_tryCatch_of_ok {x : ExceptT ε (StateM τ) α} {k : ε → ExceptT ε (StateM τ) α} {s t : τ}
    {a : α} (h : x.run s = (.ok a, t)) : (tryCatch x k).run s = (.ok a, t) := by
  change (do
    let (r, t) ← x.run s
    (match r with | .ok a => pure (.ok a) | .error e => k e : StateM τ _) t : Id _) = _
  rw [h]
  rfl

theorem run_tryCatch_of_error {x : ExceptT ε (StateM τ) α} {k : ε → ExceptT ε (StateM τ) α}
    {s t : τ} {e : ε} (h : x.run s = (.error e, t)) : (tryCatch x k).run s = (k e).run t := by
  change (do
    let (r, t) ← x.run s
    (match r with | .ok a => pure (.ok a) | .error e => k e : StateM τ _) t : Id _) = _
  rw [h]
  rfl

end Interpolation
