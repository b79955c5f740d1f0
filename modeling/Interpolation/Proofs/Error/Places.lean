import Interpolation.Proofs.Error.Drawing
import Interpolation.Proofs.Splice.Failure

/-!
# Where errors point

An error points at a region of a source that is not empty, or nowhere (`Error.Placed`): it is given
its place once, together with the source that the place is in, by whoever cut the source into tokens
or walks the tree parsed from it. Functions, managers, formatters and overlays may fail with any
error that a program has got hold of (`Error.Possible`), also one that points into some other
source; it keeps its place, or it is reported as the error of a call at a place of the sigil at
hand. So no error that can come about fails to be drawn (`Error.Possible.drawn`).
-/

namespace Interpolation

open Eval Text

variable {σ α : Type}

namespace Error

/-- The error points nowhere, or at a region of a source that is not empty. -/
def Placed (err : Error) :
    Prop := ∀ l, err.location = some l → l.source ≠ "" ∧ l.span.IsRegion l.source.toList

namespace Placed

variable {err : Error} {source : String} {span : Span}

theorem of_none (h : err.location = none) : err.Placed := by
  intro l hl
  rw [h] at hl
  cases hl

/-- A place that an error has got stays; an empty source is none. -/
theorem locate (h : err.Placed) (hspan : span.IsRegion source.toList) :
    (err.locate source span).Placed := by
  unfold Error.locate
  split
  · next hnew =>
    rintro _ ⟨⟩
    exact ⟨hnew.2, hspan⟩
  · exact h

/-- What a call failed with points where it did, or nowhere as the cause of a failed call. -/
theorem ofCall (h : err.Placed) (name : String) : (Error.ofCall name err).Placed := by
  unfold Error.ofCall
  split
  · exact h
  · exact .of_none rfl

theorem reports (source : String) : Reports source (·.IsRegion source.toList) Placed Placed where
  toPlaces := places_isRegion _
  made _ h := .of_none h
  fault _ hspan := (of_none rfl).locate hspan
  call h hspan := (h.ofCall _).locate hspan

end Placed
end Error

open Error

theorem placed_of_parse {d : Delimiters} {source : String} {err : Error}
    (h : d.parse source = .error err) :
    err.Placed := by
  obtain ⟨m, hm, rfl⟩ := parse_eq_error h
  exact (Placed.of_none rfl).locate (isRegion_of_refused hm)

/-! ## Operations -/

namespace Engine

variable {e : Engine σ} {find? : String → Option Value}

theorem resolve_placed (hh : e.host.FailsOnly Placed) (source : String) :
    FailsOnly Placed (e.resolve find? source) := by
  unfold resolve
  split
  · next sigil hp =>
    exact Scene.evalSigil_failsOnly (Placed.reports source) hh sigil (isRegion_of_parse hp)
  · next err hp => exact .fail (placed_of_parse hp)

/-- Whatever the policy, what it lets pass points where it did. -/
theorem fails_placed (hh : e.host.FailsOnly Placed) (hformat : ∀ v, FailsOnly Placed (e.format v)) :
    e.Fails find? Placed Placed where
  resolve := resolve_placed hh
  none _ := (Placed.of_none rfl).locate (.whole _)
  format v _ := (hformat v).adapt fun _ h => h.locate (.whole _)
  inner _ h := h
  passes _ h _ := h

end Engine

/-- A write that is refused is refused nowhere in a source. -/
theorem Sink.location_of_writeAll {ω : Type} {sink : Sink ω} {chunks : List String} {out : ω}
    {err : Error} (h : (sink.writeAll chunks out).1 = .error err) : err.location = none := by
  induction chunks generalizing out with
  | nil => cases h
  | cons chunk chunks ih =>
    rw [writeAll] at h
    split at h
    · exact ih h
    · cases h
      rfl

/-- What is asked for a layer fails only with errors that have the property `P`, and so does a map
that was made before. -/
def Overlay.Part.FailsOnly (P : Error → Prop) : Overlay.Part σ → Prop
  | .set _ _ => True
  | .merge map => ∀ err, map = .error err → P err
  | .source ask => Eval.FailsOnly P ask

theorem Overlay.Part.FailsOnly.mono {P Q : Error → Prop} {part : Overlay.Part σ}
    (h : part.FailsOnly P) (hPQ : ∀ err, P err → Q err) : part.FailsOnly Q := by
  cases part with
  | set key value => trivial
  | merge map => exact fun err herr => hPQ err (h err herr)
  | source ask => exact Eval.FailsOnly.mono h hPQ

theorem Overlay.layer_failsOnly {P : Error → Prop} (hmade : ∀ err, err.location = none → P err)
    {overlay : Overlay σ} (h : ∀ part ∈ overlay, part.FailsOnly P) :
    Eval.FailsOnly P overlay.layer := by
  have hextend (layer : Table) (map : Value) :
      Eval.FailsOnly P (ExceptT.mk (pure (extend layer map)) : Eval σ Table) :=
    .ofExcept fun herr => hmade _ ((extend_failsUnplaced layer map).of_error herr)
  have happly (part : Overlay.Part σ) (hpart : part.FailsOnly P) (layer : Table) :
      Eval.FailsOnly P (part.apply layer) := by
    cases part with
    | set key value => exact .ret _
    | merge map =>
      cases map with
      | error err => exact .fail (hpart err rfl)
      | ok map => exact hextend layer map
    | source ask => exact .bind hpart fun map => hextend layer map
  unfold layer
  generalize (∅ : Table) = layer
  induction overlay generalizing layer with
  | nil => exact .ret _
  | cons part overlay ih =>
    obtain ⟨hpart, hoverlay⟩ := List.forall_mem_cons.1 h
    rw [List.foldlM_cons]
    exact .bind (happly part hpart layer) fun layer => ih hoverlay layer

theorem Context.location_of_pop {c : Context} {h : Handle} {err : Error}
    (hp : c.pop h = .error err) :
    err.location = none := by
  unfold pop at hp
  split at hp
  · cases hp
    rfl
  · split at hp
    · cases hp
      rfl
    · cases hp

namespace Error

/-- An operation can fail with the error, where functions, managers, formatters and what overlays
ask for fail only with errors that have the property `P`. -/
inductive Arises (P : Error → Prop) : Error → Prop where
  | parse {d : Delimiters} {source : String} {err : Error} (h : d.parse source = .error err) :
    Arises P err
  | resolve {σ : Type} {e : Engine σ} {find? : String → Option Value} {source : String} {s : σ}
    {err : Error} (hh : e.host.FailsOnly P) (h : ((e.resolve find? source).run s).1 = .error err) :
    Arises P err
  | splice {σ : Type} {e : Engine σ} {c : Context} {text : String} {s : σ} {err : Error}
    (hh : e.host.FailsOnly P) (hformat : ∀ v, FailsOnly P (e.format v))
    (h : ((e.splice c text).run s).1.1 = .error err) : Arises P err
  | spliceTo {σ ω : Type} {e : Engine σ} {sink : Sink ω} {c : Context} {text : String} {out : ω}
    {s : σ} {err : Error} (hh : e.host.FailsOnly P) (hformat : ∀ v, FailsOnly P (e.format v))
    (h : ((e.spliceTo sink c text out).run s).1.1 = .error err) : Arises P err
  | push {σ : Type} {c : Context} {overlay : Overlay σ} {s : σ} {err : Error}
    (ho : ∀ part ∈ overlay, part.FailsOnly P) (h : ((c.push overlay).run s).1 = .error err) :
    Arises P err
  | pop {c : Context} {handle : Handle} {err : Error} (h : c.pop handle = .error err) : Arises P err
  | call {σ : Type} {host : Host σ} {f : FunctionRef} {args : List Value} {s : σ} {err : Error}
    (hh : host.FailsOnly P) (h : ((host.callRef f args).run s).1 = .error err) : Arises P err
  | toValue {d : Data} {err : Error} (h : d.toValue = .error err) : Arises P err

/-- A program can get hold of the error: it makes it, or an operation fails with it where all that
the program does for the operation fails with errors that it can get hold of. -/
inductive Possible : Error → Prop where
  | made {err : Error} (h : err.location = none) : Possible err
  | arises {P : Error → Prop} {err : Error} (hP : ∀ err, P err → Possible err) (h : err.Arises P) :
    Possible err

/-- **No operation misplaces an error**: if all that is `Placed` goes in, what `Arises` is
placed. -/
theorem Arises.placed {P : Error → Prop} {err : Error} (hP : ∀ err, P err → err.Placed)
    (h : err.Arises P) :
    err.Placed := by
  have hhost {σ : Type} {host : Host σ} (hh : host.FailsOnly P) :
      host.FailsOnly Placed := hh.mono hP
  have hformat {σ : Type} {e : Engine σ} (hf : ∀ v, FailsOnly P (e.format v)) (v : Value) :
      FailsOnly Placed (e.format v) := (hf v).mono hP
  cases h with
  | parse h => exact placed_of_parse h
  | resolve hh h => exact (Engine.resolve_placed (hhost hh) _).of_error h
  | splice hh hf h =>
    rw [Engine.splice, Context.run_splicing] at h
    exact (((Engine.fails_placed (hhost hh) (hformat hf)).chunks _ _).map _).of_error h
  | @spliceTo σ ω e sink c text out s err hh hf h =>
    have hchunks := (@Engine.fails_placed σ e c.get? (hhost hh) (hformat hf)).chunks e.maxDepth text
    rw [Engine.result_spliceTo] at h
    cases hr : ((e.chunks c.get? e.maxDepth text).run ⟨c.cache, s⟩).1 with
    | error err' =>
      rw [hr] at h
      cases h
      exact hchunks.of_error hr
    | ok chunks =>
      rw [hr] at h
      exact .of_none (Sink.location_of_writeAll h)
  | push ho h =>
    refine ((Overlay.layer_failsOnly (fun _ => .of_none) fun part hpart => ?_).map _).of_error h
    exact (ho part hpart).mono hP
  | pop h => exact .of_none (Context.location_of_pop h)
  | call hh h => exact ((hhost hh).callRef (fun _ => .of_none) _ _).of_error h
  | toValue h => exact .of_none ((Data.toValue_failsUnplaced _).of_error h)

theorem Possible.placed {err : Error} (h : err.Possible) : err.Placed := by
  induction h with
  | made h => exact .of_none h
  | arises _ h ih => exact h.placed ih

/-- **Every error that can come about (`Possible`) can be drawn.** If it points anywhere, then at a
region of a source that is not empty: the ends of the region are in order and within the source, and
they are boundaries between its characters. -/
theorem Possible.drawn {err : Error} (h : err.Possible) {l : Location}
    (hl : err.location = some l) :
    l.source ≠ "" ∧ l.span.start ≤ l.span.stop ∧ l.span.stop ≤ byteLength l.source.toList ∧
      IsBoundary l.source.toList l.span.start ∧ IsBoundary l.source.toList l.span.stop ∧
      ∃ drawn, l.draw? err.message = some drawn ∧ err.pretty = drawn := by
  obtain ⟨hne, hregion⟩ := h.placed l hl
  obtain ⟨drawn, hdrawn⟩ := l.exists_draw? hregion err.message
  refine ⟨hne, hregion.le, hregion.stop.le, hregion.start, hregion.stop, drawn, hdrawn, ?_⟩
  rw [pretty, hl]
  dsimp only
  rw [hdrawn]
  rfl

/-- What a source is refused for that ends, with two line feeds, before its sigil does. -/
def unclosed : Error := ⟨.unexpected (.token .closing) none, some ⟨"[A\n\n", ⟨4, 4⟩⟩, []⟩

theorem parse_unclosed : Delimiters.square.parse "[A\n\n" = .error unclosed := by
  have hlayout : Layout .square 0 [⟨.opening, 0, ['[']⟩, ⟨.identifier, 1, ['A']⟩] "[A\n\n".toList :=
    .token .opening <| .token (.identifier (by decide) (List.forall_mem_nil _)) <|
      .blank rfl <| .blank rfl .nil
  have hrun : List.foldlM Reading.step .start [⟨.opening, 0, ['[']⟩, ⟨.identifier, 1, ['A']⟩] =
      .ok (.inside [] ⟨⟨0, 1⟩, []⟩ (.named ⟨"A", ⟨1, 2⟩⟩)) := rfl
  obtain ⟨hwords, hfault⟩ :=
    lexFrom_of_layout Delimiters.square_clean hlayout (Reading.isChain_of_run hlayout.quoted hrun)
  rw [← hwords] at hrun
  have hsigil := @sigil_of_reading (Delimiters.square.lex "[A\n\n") 4 _ hrun hfault
  change Except.mapError _ ((Delimiters.square.lex "[A\n\n").sigil 4) = _
  rw [hsigil]
  rfl

/-- A function fails with the error of a source that it could not parse. -/
theorem Possible.drawn_unclosed : unclosed.Possible ∧ unclosed.location = some ⟨"[A\n\n", ⟨4, 4⟩⟩ ∧
    ∃ drawn, Location.draw? ⟨"[A\n\n", ⟨4, 4⟩⟩ unclosed.message = some drawn ∧
    unclosed.pretty = drawn := by
  have hparse : unclosed.Possible :=
    .arises (P := fun _ => False) (fun _ h => h.elim) (.parse parse_unclosed)
  have hfails : Host.FailsOnly (· = unclosed)
      { Host.echo with call := fun _ _ => throw unclosed } :=
    ⟨fun _ _ => .fail rfl, nofun, nofun⟩
  have hcall : unclosed.Arises (· = unclosed) :=
    @Arises.call _ Unit _ (.host 0 none) [] () unclosed hfails rfl
  have hpossible : unclosed.Possible := by
    refine .arises (P := (· = unclosed)) ?_ hcall
    rintro err rfl
    exact hparse
  obtain ⟨-, -, -, -, -, hdrawn⟩ := Possible.drawn hpossible rfl
  exact ⟨hpossible, rfl, hdrawn⟩

end Error
end Interpolation
