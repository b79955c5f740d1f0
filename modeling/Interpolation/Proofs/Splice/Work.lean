import Interpolation.Proofs.Purity
import Interpolation.Proofs.Run
import Interpolation.Splice.Sink

/-!
# The work of splicing

What one sigil does to the work of splicing: to the values that are kept and to the state of the
host.
-/

namespace Interpolation

variable {σ α : Type}

theorem Splice.run_ofHost (x : Eval σ α) (w : Work σ) :
    (Splice.ofHost x).run w = ((x.run w.host).1, { w with host := (x.run w.host).2 }) := rfl

theorem Context.run_splicing (c : Context) (x : Splice σ α) (s : σ) :
    (c.splicing x).run s =
      (((x.run ⟨c.cache, s⟩).1, { c with cache := (x.run ⟨c.cache, s⟩).2.cache }),
        (x.run ⟨c.cache, s⟩).2.host) :=
  rfl

namespace Engine

variable {e : Engine σ} {find? : String → Option Value} {sigil : String} {w : Work σ}
    {v : Value} {s : σ}

/-- The cache with the value of a sigil, if values are kept. -/
def keep (e : Engine σ) (sigil : String) (v : Value) (cache : Table) : Table :=
  if e.caching then cache.insert sigil v else cache

/-- The value that is kept of a sigil, if values are kept. -/
def kept? (e : Engine σ) (sigil : String) (cache : Table) : Option Value :=
  if e.caching then cache.get? sigil else none

theorem get?_of_kept? {cache : Table} (h : e.kept? sigil cache = some v) :
    cache.get? sigil = some v := by
  unfold kept? at h
  split at h
  · exact h
  · cases h

theorem get?_of_keep {cache : Table} {key : String} {v' : Value}
    (h : (e.keep sigil v cache).get? key = some v') :
    key = sigil ∧ v' = v ∨ cache.get? key = some v' := by
  unfold keep at h
  split at h
  · rw [Table.get?_insert] at h
    split at h
    · next hkey =>
      cases h
      exact .inl ⟨hkey, rfl⟩
    · exact .inr h
  · exact .inr h

/-- A value that is kept (`kept?`) is not asked for again. -/
theorem run_value_of_kept (h : e.kept? sigil w.cache = some v) :
    (e.value find? sigil).run w = (.ok v, w) := by
  unfold value kept? at *
  rw [run_get_bind]
  dsimp only
  rw [h]
  rfl

theorem run_value_of_ok (h : e.kept? sigil w.cache = none)
    (hr : (e.resolve find? sigil).run w.host = (.ok v, s)) :
    (e.value find? sigil).run w = (.ok v, ⟨e.keep sigil v w.cache, s⟩) := by
  unfold value kept? keep at *
  have hh : (Splice.ofHost (e.resolve find? sigil)).run w = (.ok v, ⟨w.cache, s⟩) := by
    rw [Splice.run_ofHost, hr]
  rw [run_get_bind]
  dsimp only
  rw [h]
  dsimp only
  rw [run_bind_of_ok hh]
  split <;> rfl

theorem run_value_of_error {err : Error} (h : e.kept? sigil w.cache = none)
    (hr : (e.resolve find? sigil).run w.host = (.error err, s)) :
    (e.value find? sigil).run w = (.error err, ⟨w.cache, s⟩) := by
  unfold value kept? at *
  have hh : (Splice.ofHost (e.resolve find? sigil)).run w = (.error err, ⟨w.cache, s⟩) := by
    rw [Splice.run_ofHost, hr]
  rw [run_get_bind]
  dsimp only
  rw [h]
  dsimp only
  rw [run_bind_of_error hh]

/-- However a sink takes the chunks, the context and the host are those that splicing to a text
leaves. -/
theorem context_spliceTo {ω : Type} (e : Engine σ) (sink : Sink ω) (c : Context) (text : String)
    (out : ω) (s : σ) :
    ((e.spliceTo sink c text out).run s).1.2.2 = ((e.splice c text).run s).1.2 ∧
      ((e.spliceTo sink c text out).run s).2 = ((e.splice c text).run s).2 := by
  rw [splice, Context.run_splicing, run_map, spliceTo, StateT.run_bind, Context.run_splicing]
  rcases (e.chunks c.get? e.maxDepth text).run ⟨c.cache, s⟩ with ⟨err | chunks, w⟩ <;>
    exact ⟨rfl, rfl⟩

/-- Nothing is written unless all of the text is spliced. -/
theorem result_spliceTo {ω : Type} (e : Engine σ) (sink : Sink ω) (c : Context) (text : String)
    (out : ω) (s : σ) :
    ((e.spliceTo sink c text out).run s).1.1 =
      ((e.chunks c.get? e.maxDepth text).run ⟨c.cache, s⟩).1.bind fun chunks =>
        (sink.writeAll chunks out).1 := by
  rw [spliceTo, StateT.run_bind, Context.run_splicing]
  rcases (e.chunks c.get? e.maxDepth text).run ⟨c.cache, s⟩ with ⟨err | chunks, w⟩ <;> rfl

end Engine
end Interpolation
