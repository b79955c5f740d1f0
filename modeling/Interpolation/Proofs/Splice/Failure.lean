import Interpolation.Proofs.Failure
import Interpolation.Proofs.Sigil.Parsing
import Interpolation.Proofs.Splice.Asks

/-!
# How splicing fails

Resolving a sigil that can be parsed fails with a miss that points into the sigil, and so does
writing its value with the common form of values. A policy that answers misses answers all of them,
at every level of splicing; what is left are sigils that cannot be parsed
(`Engine.splice_fails_only_to_parse`).
-/

namespace Interpolation

open Eval

variable {σ α : Type}

theorem Error.isMiss_locate (source : String) (span : Span) (err : Error) :
    (err.locate source span).isMiss = err.isMiss := by
  rw [isMiss, isMiss, kind_locate]

/-- Splicing fails with what the host fails with. -/
theorem Splice.ofHost_failsOnly {P : Error → Prop} {x : Eval σ α} (hx : FailsOnly P x) :
    FailsOnly P (Splice.ofHost x) := by
  refine ⟨fun {w err} h => ?_⟩
  rw [Splice.run_ofHost] at h
  exact hx.of_error h

/-- A policy that answers misses never fails. -/
theorem MissPolicy.answer_failsOnly {P : Error → Prop} {policy : MissPolicy} {miss : Error}
    (h : policy = .raise → P miss) (sigil : String) :
    FailsOnly P (policy.answer sigil miss : Splice σ String) := by
  cases policy with
  | raise => exact .fail (h rfl)
  | keep | drop | text => exact .ret _

/-- The error of a sigil that cannot be parsed. -/
def Delimiters.Refuses (d : Delimiters) (err : Error) : Prop := ∃ sigil, d.parse sigil = .error err

theorem Delimiters.parse_empty (d : Delimiters) : ∃ err, d.parse "" = .error err := by
  cases hp : d.parse "" with
  | error err => exact ⟨err, rfl⟩
  | ok a =>
    obtain ⟨hrun, -⟩ := parse_eq_ok.1 hp
    change (d.lexFrom 0 []).words.foldlM Reading.step .start = .ok (.done a) at hrun
    rw [Delimiters.lexFrom] at hrun
    cases hrun

namespace Engine

variable {e : Engine σ} {find? : String → Option Value}
    {again : Option (String → Splice σ (List String))}
  {P R : Error → Prop}

/-- Resolving fails to parse (`Delimiters.Refuses`), or with a miss. -/
theorem resolve_failsOnly (e : Engine σ) (find? : String → Option Value) (source : String) :
    FailsOnly (fun err => e.delimiters.parse source = .error err ∨
      (∃ sigil, e.delimiters.parse source = .ok sigil) ∧ err.Misses source)
        (e.resolve find? source) := by
  unfold resolve
  split
  · next sigil hp =>
    -- an empty source is none that an error could point into
    have hne : source ≠ "" := by
      rintro rfl
      obtain ⟨err, herr⟩ := e.delimiters.parse_empty
      cases hp.symm.trans herr
    have hfails := @Scene.evalSigil_failsOnly σ ⟨e.host, find?, source⟩ _ _ _
      (Error.misses_reports hne)
      e.host.failsOnly_any sigil fun _ _ => trivial
    exact hfails.mono fun err h => .inr ⟨⟨sigil, hp⟩, h⟩
  · next err hp => exact .fail (.inl hp)

theorem value_failsOnly {sigil : String} (h : FailsOnly P (e.resolve find? sigil)) :
    FailsOnly P (e.value find? sigil) := by
  refine ⟨fun {w err} herr => ?_⟩
  cases hk : e.kept? sigil w.cache with
  | some v =>
    rw [run_value_of_kept hk] at herr
    cases herr
  | none =>
    rcases hr : (e.resolve find? sigil).run w.host with ⟨err' | v, s⟩
    · rw [run_value_of_error hk hr] at herr
      exact Except.error.inj herr ▸ h.of_error (congrArg Prod.fst hr)
    · rw [run_value_of_ok hk hr] at herr
      cases herr

/-! ## Levels -/

/-- How an engine fails where names stand for what `find?` says: at a sigil with the property `P`,
and where the policy does not answer, with the property `R`. A text that is spliced in turn fails
with `R`. -/
structure Fails (e : Engine σ) (find? : String → Option Value) (P R : Error → Prop) : Prop where
  resolve : ∀ sigil, FailsOnly P (e.resolve find? sigil)
  none : ∀ sigil, P ((Error.of .resolvedToNone).locate sigil ⟨0, Text.byteLength sigil.toList⟩)
  format : ∀ v sigil, FailsOnly P ((e.format v).adapt
    (·.locate sigil ⟨0, Text.byteLength sigil.toList⟩))
  inner : ∀ err, R err → P err
  passes : ∀ err, P err → (err.isMiss = true → e.onMiss = .raise) → R err

namespace Fails

variable (h : e.Fails find? P R)
include h

section
variable (hagain : ∀ x ∈ again, ∀ text, FailsOnly R (x text))
include hagain

theorem text (sigil : String) : FailsOnly P (e.text find? again sigil) := by
  refine .bind (value_failsOnly (h.resolve sigil)) fun v => ?_
  dsimp only
  by_cases hv : v.isNone = true
  · rw [if_pos hv]
    exact .fail_bind (h.none sigil)
  rw [if_neg hv]
  refine .bind (Splice.ofHost_failsOnly (h.format v sigil)) fun text => ?_
  cases again with
  | none => exact .ret text
  | some x =>
    dsimp only
    split
    · exact ((hagain x rfl text).map _).mono h.inner
    · exact .ret text

theorem replacement (sigil : String) : FailsOnly R (e.replacement find? again sigil) := by
  refine .tryCatch (h.text hagain sigil) fun err herr => ?_
  split
  · exact MissPolicy.answer_failsOnly (fun hraise => h.passes err herr fun _ => hraise) sigil
  · next hmiss => exact .fail (h.passes err herr fun hm => absurd hm hmiss)

theorem replacements (sigils : List String) (known : List (String × String)) :
    FailsOnly R (e.replacements find? again known sigils) := by
  induction sigils generalizing known with
  | nil => exact .ret known
  | cons sigil sigils ih =>
    rw [Engine.replacements]
    split
    · exact ih known
    · exact .bind (h.replacement hagain sigil) fun text => ih _

theorem level (text : String) : FailsOnly R (e.level find? again text) :=
  .bind (h.replacements hagain ..) fun _ => .ret _

end

/-- **At every level splicing fails only with what the policy lets pass.** -/
theorem chunks (depth : Nat) (text : String) : FailsOnly R (e.chunks find? depth text) := by
  induction depth generalizing text with
  | zero => exact h.level (fun _ h => absurd h (by simp)) text
  | succ depth ih =>
    refine h.level ?_ text
    rintro _ ⟨⟩ text
    exact ih text

end Fails

/-- A policy that answers misses lets nothing pass but sigils that cannot be parsed
(`Delimiters.Refuses`). -/
theorem misses_fails (hformat : ∀ v, FailsOnly (fun err => err.isMiss = true) (e.format v))
    (hpolicy : e.onMiss ≠ .raise) :
    e.Fails find? (fun err => err.isMiss = true ∨ e.delimiters.Refuses err)
      e.delimiters.Refuses where
  resolve sigil :=
    (resolve_failsOnly e find? sigil).mono fun _ h =>
      h.symm.imp (fun h => h.2.isMiss) fun h => ⟨sigil, h⟩
  none sigil := .inl (Error.isMiss_locate ..)
  format v sigil := (hformat v).adapt fun err h => .inl (by rwa [Error.isMiss_locate])
  inner _ := .inr
  passes _ h hraise := h.resolve_left fun hmiss => hpolicy (hraise hmiss)

/-- At no level of splicing does a miss get past the policy. -/
theorem chunks_failsOnly (hformat : ∀ v, FailsOnly (fun err => err.isMiss = true) (e.format v))
    (hpolicy : e.onMiss ≠ .raise) (depth : Nat) (text : String) :
    FailsOnly e.delimiters.Refuses (e.chunks find? depth text) :=
  (misses_fails hformat hpolicy).chunks depth text

theorem common_format_failsOnly (host : Host σ) (v : Value) :
    FailsOnly (fun err => err.isMiss = true) ((Engine.new host).format v) :=
  (v.format_failsOnly host).mono fun _ => Error.Unformattable.isMiss

/-- **Misses stay with the policy.** Resolving a sigil that can be parsed fails with a miss that
points into a sigil, whatever functions, objects and managers do. So with the common form of values
and any policy but to refuse the text, splicing gives a text, or fails because a sigil cannot be
parsed. -/
theorem splice_fails_only_to_parse (e : Engine σ) :
    (∀ (find? : String → Option Value) (source : String) (sigil : Sigil) (s : σ) (err : Error),
      e.delimiters.parse source = .ok sigil → ((e.resolve find? source).run s).1 = .error err →
      err.Misses source) ∧
    (e.format = (Engine.new e.host).format → e.onMiss ≠ .raise →
      ∀ (c : Context) (text : String) (s : σ),
      (∃ out, ((e.splice c text).run s).1.1 = .ok out) ∨
      ∃ err, ((e.splice c text).run s).1.1 = .error err ∧ err.kind = .parse ∧
      e.delimiters.Refuses err) := by
  constructor
  · intro find? source sigil s err hp herr
    rcases (resolve_failsOnly e find? source).of_error herr with hrefused | ⟨-, hmiss⟩
    · cases hp.symm.trans hrefused
    · exact hmiss
  · intro hformat hpolicy c text s
    have hchunks : FailsOnly e.delimiters.Refuses (e.chunks c.get? e.maxDepth text) :=
      chunks_failsOnly (hformat ▸ common_format_failsOnly e.host) hpolicy e.maxDepth text
    rw [splice, Context.run_splicing]
    cases hr : ((String.join <$> e.chunks c.get? e.maxDepth text).run ⟨c.cache, s⟩).1 with
    | ok out => exact .inl ⟨out, rfl⟩
    | error err =>
      obtain ⟨sigil, hsigil⟩ := (hchunks.map String.join).of_error hr
      exact .inr ⟨err, rfl, kind_of_parse hsigil, sigil, hsigil⟩

/-- An engine that drops what cannot be resolved, over a host whose functions fail as if they could
not parse. -/
def dropping : Engine Unit :=
  { Engine.new { Host.echo with call := fun _ _ => throw (Error.of .undelimitedString) } with
    onMiss := .drop }

theorem splice_fails_only_to_parse_dropping :
    dropping.delimiters.parse "[F]" = .ok (.mk (.bare ⟨"F", ⟨1, 2⟩⟩) [] ⟨0, 3⟩) ∧
    (∃ err, ((dropping.resolve (fun _ => some (.func (.host 0 none))) "[F]").run ()).1 =
        .error err ∧
      err.Misses "[F]") ∧
    dropping.format = (Engine.new dropping.host).format ∧ dropping.onMiss ≠ .raise ∧
    ((∃ out, ((dropping.splice (.empty 0) "a[F]").run ()).1.1 = .ok out) ∨
      ∃ err, ((dropping.splice (.empty 0) "a[F]").run ()).1.1 = .error err ∧ err.kind = .parse ∧
        dropping.delimiters.Refuses err) := by
  have hparse : dropping.delimiters.parse "[F]" = .ok (.mk (.bare ⟨"F", ⟨1, 2⟩⟩) [] ⟨0, 3⟩) :=
    parse_of_renders Delimiters.square_clean
      ⟨[⟨.opening, 0, ['[']⟩, ⟨.identifier, 1, ['F']⟩, ⟨.closing, 2, [']']⟩],
      .token .opening <| .token (.identifier (by decide) (List.forall_mem_nil _)) <|
        .token .closing .nil,
      .mk rfl (.bare (.inl rfl)) .nil rfl⟩
  have hresolve : ((dropping.resolve (fun _ => some (.func (.host 0 none))) "[F]").run ()).1 =
      .error ⟨.callFailed "F" "undelimited string", some ⟨"[F]", ⟨1, 2⟩⟩,
        ["undelimited string"]⟩ := by
    rw [resolve, hparse]
    rfl
  have hformat : dropping.format = (Engine.new dropping.host).format := rfl
  have hpolicy : dropping.onMiss ≠ .raise := by decide
  obtain ⟨hmiss, hsplice⟩ := splice_fails_only_to_parse dropping
  refine ⟨hparse, ⟨_, hresolve, ?_⟩, hformat, hpolicy, hsplice hformat hpolicy (.empty 0) "a[F]" ()⟩
  exact hmiss _ _ _ _ _ hparse hresolve

end Engine
end Interpolation
