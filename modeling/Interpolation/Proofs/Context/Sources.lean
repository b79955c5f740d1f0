import Interpolation.Proofs.Context.Operation

/-!
# Sources of overlays

An overlay is made into a layer part by part, and the first part that fails ends it. By then each
source up to that part has been called once, in order, and no other has
(`Overlay.run_layer_eq_error_iff`).
-/

namespace Interpolation

variable {σ : Type}

namespace Overlay

/-- What a part asks for. -/
def Part.source? : Part σ → Option (Eval σ Value)
  | .source ask => some ask
  | _ => none

/-- The sources of an overlay, in order. -/
def sources (overlay : Overlay σ) : List (Eval σ Value) := overlay.filterMap Part.source?

/-- The state of the host after the sources of an overlay were called, each once, in order. -/
def called (overlay : Overlay σ) (s : σ) : σ := overlay.sources.foldl (fun s ask => (ask.run s).2) s

/-- A part fails with the error when it is applied (`Part.apply`). -/
inductive Part.Fails : Part σ → σ → Error → Prop where
  /-- It was made of data that cannot become a value. -/
  | data (err : Error) (s : σ) : Fails (.merge (.error err)) s err
  | notMap {v : Value} (hv : ∀ entries, v ≠ .map entries) (s : σ) :
    Fails (.merge (.ok v)) s (.of (.overlayNotMap v.kind))
  | source {ask : Eval σ Value} {err : Error} {s s' : σ} (h : ask.run s = (.error err, s')) :
    Fails (.source ask) s err
  | sourceNotMap {ask : Eval σ Value} {v : Value} {s s' : σ} (h : ask.run s = (.ok v, s'))
    (hv : ∀ entries, v ≠ .map entries) : Fails (.source ask) s (.of (.overlayNotMap v.kind))

/-- No part fails when they are applied in turn. -/
def Succeeds : Overlay σ → σ → Prop
  | [], _ => True
  | part :: parts, s => (∀ err, ¬ part.Fails s err) ∧ Succeeds parts (called [part] s)

theorem called_append (parts rest : Overlay σ) (s : σ) :
    called (parts ++ rest) s = called rest (called parts s) := by
  rw [called, sources, List.filterMap_append, List.foldl_append]
  rfl

theorem extend_of_not_map {v : Value} (hv : ∀ entries, v ≠ .map entries) (t : Table) :
    extend t v = .error (.of (.overlayNotMap v.kind)) := by
  cases v with
  | map entries => exact absurd rfl (hv entries)
  | _ => rfl

section
variable {part : Part σ} {parts before after : Overlay σ} {s s' : σ} {err : Error} {t : Table}

theorem Part.run_apply_of_fails (h : part.Fails s err) (t : Table) :
    (part.apply t).run s = (.error err, called [part] s) := by
  cases h with
  | data => rfl
  | notMap hv =>
    rw [apply, Except.bind, extend_of_not_map hv]
    rfl
  | source h =>
    rw [apply, run_bind_of_error h]
    exact congrArg (Prod.mk _) (congrArg Prod.snd h).symm
  | sourceNotMap h hv =>
    rw [apply, run_bind_of_ok h, extend_of_not_map hv]
    exact congrArg (Prod.mk _) (congrArg Prod.snd h).symm

/-- A part that does not fail makes a layer of every layer. -/
theorem Part.run_apply_of_succeeds (h : ∀ err, ¬ part.Fails s err) (t : Table) :
    ∃ t', (part.apply t).run s = (.ok t', called [part] s) := by
  cases part with
  | set key value => exact ⟨_, rfl⟩
  | merge map =>
    rcases map with err | v
    · exact absurd (.data err s) (h err)
    · by_cases hv : ∃ entries, v = .map entries
      · obtain ⟨entries, rfl⟩ := hv
        exact ⟨_, rfl⟩
      · exact absurd (.notMap (not_exists.1 hv) s) (h _)
  | source ask =>
    rcases hr : ask.run s with ⟨err | v, s'⟩
    · exact absurd (.source hr) (h err)
    · by_cases hv : ∃ entries, v = .map entries
      · obtain ⟨entries, rfl⟩ := hv
        rw [apply, run_bind_of_ok hr]
        exact ⟨_, congrArg (Prod.mk _) (congrArg Prod.snd hr).symm⟩
      · exact absurd (.sourceNotMap hr (not_exists.1 hv)) (h _)

/-- Parts go on from where those before them ended. -/
theorem run_foldlM_of_succeeds (h : Succeeds before s) (rest : Overlay σ) (t : Table) :
    ∃ t', ((before ++ rest).foldlM Part.apply t).run s =
      (rest.foldlM Part.apply t').run (called before s) := by
  induction before generalizing s t with
  | nil => exact ⟨t, rfl⟩
  | cons part before ih =>
    obtain ⟨hpart, hbefore⟩ := h
    obtain ⟨t', happly⟩ := Part.run_apply_of_succeeds hpart t
    obtain ⟨t'', hrest⟩ := ih hbefore t'
    refine ⟨t'', ?_⟩
    rw [List.cons_append, List.foldlM_cons, run_bind_of_ok happly, hrest, ← called_append]
    rfl

theorem run_foldlM_of_fails (hbefore : Succeeds before s) (hpart : part.Fails (called before s) err)
    (after : Overlay σ) (t : Table) :
    ((before ++ part :: after).foldlM Part.apply t).run s =
      (.error err, called (before ++ [part]) s) := by
  obtain ⟨t', hrest⟩ := run_foldlM_of_succeeds hbefore (part :: after) t
  rw [hrest, List.foldlM_cons, run_bind_of_error (Part.run_apply_of_fails hpart t'), called_append]

/-- Either the overlay `Succeeds`, or there is a first part that fails. -/
theorem succeeds_or_fails (overlay : Overlay σ) (s : σ) :
    overlay.Succeeds s ∨ ∃ before part after err, overlay = before ++ part :: after ∧
    Succeeds before s ∧
      part.Fails (called before s) err := by
  induction overlay generalizing s with
  | nil => exact .inl trivial
  | cons part parts ih =>
    by_cases h : ∃ err, part.Fails s err
    · obtain ⟨err, h⟩ := h
      exact .inr ⟨[], part, parts, err, rfl, trivial, h⟩
    · have hpart := not_exists.1 h
      rcases ih (called [part] s) with hparts | ⟨before, failing, after, err, rfl, hbefore, hfails⟩
      · exact .inl ⟨hpart, hparts⟩
      · refine .inr ⟨part :: before, failing, after, err, rfl, ⟨hpart, hbefore⟩, ?_⟩
        rwa [← List.singleton_append, called_append]

/-- **An overlay fails as the first of its parts does that fails.** By then the sources up to that
part have been `called`, each once, in order. -/
theorem run_layer_eq_error_iff {overlay : Overlay σ} :
    overlay.layer.run s = (.error err, s') ↔
    ∃ before part after, overlay = before ++ part :: after ∧
      Succeeds before s ∧ part.Fails (called before s) err ∧ s' = called (before ++ [part]) s := by
  constructor
  · intro h
    rcases succeeds_or_fails overlay s with hall | ⟨before, part, after, err', rfl, hbefore, hpart⟩
    · obtain ⟨t, hok⟩ := run_foldlM_of_succeeds hall [] ∅
      rw [List.append_nil] at hok
      rw [layer, hok] at h
      cases h
    · have herror := run_foldlM_of_fails hbefore hpart after ∅
      rw [layer, herror] at h
      cases h
      exact ⟨before, part, after, rfl, hbefore, hpart, rfl⟩
  · rintro ⟨before, part, after, rfl, hbefore, hpart, rfl⟩
    exact run_foldlM_of_fails hbefore hpart after ∅

end
end Overlay

end Interpolation
