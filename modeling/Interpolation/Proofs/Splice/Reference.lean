import Interpolation.Proofs.Extraction.Bounds
import Interpolation.Proofs.Splice.Work
import Mathlib

/-!
# Splicing without a memory

`Engine.reference` resolves every occurrence of a sigil for itself and keeps nothing: no table of
the sigils of a level, no cache of a context, no look at a text before it is spliced in turn. Over a
pure host splicing gives the same text or the same error (`splice_eq_reference`).

The proof is a simulation. `Splice.Agrees` says of a computation of splicing and one of the host
that from every cache which is right they give the same, and that the cache is right again
afterwards; it holds of the steps and is kept when they are put together.
-/

namespace Interpolation

open Text

variable {σ α β : Type}

namespace Engine

variable (e : Engine σ) (find? : String → Option Value)

/-- The text of one occurrence of a sigil, spliced by `again` if some depth is left. -/
def occurrenceText (again : Option (String → Eval σ String)) (sigil : String) : Eval σ String := do
  let whole : Span := ⟨0, byteLength sigil.toList⟩
  let v ← e.resolve find? sigil
  if v.isNone then throw ((Error.of .resolvedToNone).locate sigil whole)
  let text ← (e.format v).adapt (·.locate sigil whole)
  match again with
  | some again => again text
  | none => return text

/-- The text in place of one occurrence of a sigil. A miss is answered as the policy says. -/
def occurrence (again : Option (String → Eval σ String)) (sigil : String) : Eval σ String :=
  tryCatch (e.occurrenceText find? again sigil) fun err =>
    if err.isMiss then
      match e.onMiss with
      | .raise => throw err
      | .keep => return sigil
      | .drop => return ""
      | .text s => return s
    else throw err

/-- A text whose sigils are replaced one by one, up to the first error. -/
def replaceEach (again : Option (String → Eval σ String)) (tail : List Char) :
    List Piece → Eval σ String
  | [] => return String.ofList tail
  | p :: ps => do
    let text ← e.occurrence find? again (String.ofList p.sigil)
    let rest ← replaceEach again tail ps
    return String.ofList p.plain ++ (text ++ rest)

/-- The spliced text, with `depth` levels of splicing below the first. -/
def reference : (depth : Nat) → String → Eval σ String
  | 0, text =>
    e.replaceEach find? none (e.delimiters.extract text).tail (e.delimiters.extract text).pieces
  | depth + 1, text =>
    e.replaceEach find? (some (reference depth)) (e.delimiters.extract text).tail
      (e.delimiters.extract text).pieces

/-- A text leads to a sigil: it is one of its own or, while some depth is left, one to which the
text of a value leads, as it is written when the host is in the state `s`. -/
inductive Meets (s : σ) : (depth : Nat) → String → String → Prop where
  | here {depth : Nat} {text sigil : String} (h : sigil ∈ (e.delimiters.extract text).sigils) :
    Meets s depth text sigil
  | deeper {depth : Nat} {text sigil inner sigil' : String}
    (h : sigil ∈ (e.delimiters.extract text).sigils)
    (ht : (e.occurrenceText find? none sigil).run s = (.ok inner, s))
    (hm : Meets s depth inner sigil') : Meets s (depth + 1) text sigil'

/-- Values are written by a pure formatter for a pure host. -/
structure Pure : Prop where
  host : e.host.Pure
  format : ∀ v, Eval.Pure (e.format v)

/-- Every value in the cache is what its sigil resolves to now, when the host is in the state
`s`. -/
def Valid (s : σ) (cache : Table) : Prop :=
  ∀ sigil v, cache.get? sigil = some v → (e.resolve find? sigil).run s = (.ok v, s)

variable {e find?}

/-- A text that cannot hold a sigil is spliced into itself. -/
theorem reference_of_mayHoldSigil_eq_false {text : String}
    (h : e.delimiters.mayHoldSigil text = false) (depth : Nat) :
    e.reference find? depth text = pure text := by
  cases depth <;> simp [reference, Delimiters.extract_of_mayHoldSigil_eq_false h, replaceEach]

end Engine

/-- From every cache that is `ok`, and the host in the state `s`, splicing by `x` gives what `y`
gives. It leaves a cache that is `ok`, and both leave the host as it was. -/
def Splice.Agrees (ok : Table → Prop) (s : σ) (x : Splice σ α) (y : Eval σ α) : Prop :=
  ∀ cache, ok cache → ∃ r cache', ok cache' ∧ x.run ⟨cache, s⟩ = (r, ⟨cache', s⟩) ∧ y.run s = (r, s)

namespace Splice.Agrees

variable {ok : Table → Prop} {s : σ}

theorem ret (a : α) : Agrees ok s (pure a) (pure a) := fun cache h => ⟨_, cache, h, rfl, rfl⟩

theorem fail (err : Error) : Agrees ok s (throw err : Splice σ α) (throw err) :=
  fun cache h => ⟨_, cache, h, rfl, rfl⟩

theorem fail_bind (err : Error) {f : α → Splice σ β} {g : α → Eval σ β} :
    Agrees ok s (throw err >>= f) (throw err >>= g) := fun cache h => ⟨_, cache, h, rfl, rfl⟩

theorem ofHost {y : Eval σ α} (hy : Eval.Pure y) : Agrees ok s (Splice.ofHost y) y := by
  obtain ⟨r, rfl⟩ := hy
  exact fun cache h => ⟨r, cache, h, rfl, rfl⟩

theorem bind {x : Splice σ α} {y : Eval σ α} {f : α → Splice σ β} {g : α → Eval σ β}
    (hx : Agrees ok s x y) (hf : ∀ a, y.run s = (.ok a, s) → Agrees ok s (f a) (g a)) :
    Agrees ok s (x >>= f) (y >>= g) := by
  intro cache h
  obtain ⟨r, cache', h', hr, hy⟩ := hx cache h
  cases r with
  | ok a =>
    rw [run_bind_of_ok hr, run_bind_of_ok hy]
    exact hf a hy cache' h'
  | error err =>
    rw [run_bind_of_error hr, run_bind_of_error hy]
    exact ⟨_, cache', h', rfl, rfl⟩

theorem tryCatch {x : Splice σ α} {y : Eval σ α} {f : Error → Splice σ α} {g : Error → Eval σ α}
    (hx : Agrees ok s x y) (hf : ∀ err, Agrees ok s (f err) (g err)) :
    Agrees ok s (MonadExcept.tryCatch x f) (MonadExcept.tryCatch y g) := by
  intro cache h
  obtain ⟨r, cache', h', hr, hy⟩ := hx cache h
  cases r with
  | ok a =>
    rw [run_tryCatch_of_ok hr, run_tryCatch_of_ok hy]
    exact ⟨_, cache', h', rfl, rfl⟩
  | error err =>
    rw [run_tryCatch_of_error hr, run_tryCatch_of_error hy]
    exact hf err cache' h'

end Splice.Agrees

namespace Engine

open Splice (Agrees)

variable {e : Engine σ} {find? : String → Option Value} {s : σ}

/-- A value that is kept is the value that resolving gives. -/
theorem value_agrees (he : e.Pure) {sigil : String} (hviews : e.ViewsAlike find? sigil) :
    Agrees (e.Valid find? s) s (e.value find? sigil) (e.resolve find? sigil) := by
  intro cache h
  obtain ⟨r, hr⟩ : Eval.Pure (e.resolve find? sigil) := resolve_pure he.host hviews
  have hrun : (e.resolve find? sigil).run s = (r, s) := by rw [hr]; rfl
  cases hk : e.kept? sigil cache with
  | some v => exact ⟨.ok v, cache, h, run_value_of_kept hk, h sigil v (get?_of_kept? hk)⟩
  | none =>
    cases r with
    | error err => exact ⟨.error err, cache, h, run_value_of_error hk hrun, hrun⟩
    | ok v =>
      refine ⟨.ok v, e.keep sigil v cache, fun sigil' v' h' => ?_, run_value_of_ok hk hrun, hrun⟩
      rcases get?_of_keep h' with ⟨rfl, rfl⟩ | h'
      · exact hrun
      · exact h sigil' v' h'

/-- Splicing the texts in question again, or not at all, agrees as one level after the other does.
-/
structure AgainAgrees (e : Engine σ) (find? : String → Option Value) (s : σ) (P : String → Prop)
    (again : Option (String → Splice σ (List String)))
    (again' : Option (String → Eval σ String)) : Prop where
  isSome : again.isSome = again'.isSome
  agrees : ∀ x ∈ again, ∀ y ∈ again', ∀ text, P text →
    Agrees (e.Valid find? s) s (String.join <$> x text) (y text)
  plain : ∀ y ∈ again', ∀ text, e.delimiters.mayHoldSigil text = false → y text = pure text

variable {P : String → Prop}

theorem AgainAgrees.none : AgainAgrees e find? s P none none :=
  ⟨rfl, fun _ h => absurd h (by simp), fun _ h => absurd h (by simp)⟩

/-- The sigil does not tell views of the environment apart (`ViewsAlike`), and the text of its value
is one of those in question (`P`). -/
structure Fits (e : Engine σ) (find? : String → Option Value) (s : σ) (P : String → Prop)
    (sigil : String) : Prop where
  viewsAlike : e.ViewsAlike find? sigil
  inner : ∀ inner, (e.occurrenceText find? Option.none sigil).run s = (.ok inner, s) → P inner

variable {again : Option (String → Splice σ (List String))}
  {again' : Option (String → Eval σ String)}

theorem text_agrees (he : e.Pure) (h : AgainAgrees e find? s P again again') {sigil : String}
    (hsigil : e.Fits find? s P sigil) :
    Agrees (e.Valid find? s) s (e.text find? again sigil)
      (e.occurrenceText find? again' sigil) := by
  refine .bind (value_agrees he hsigil.viewsAlike) fun v hvalue => ?_
  dsimp only
  by_cases hv : v.isNone = true
  · rw [if_pos hv, if_pos hv]
    exact .fail_bind _
  rw [if_neg hv, if_neg hv]
  refine .bind (.ofHost ((he.format v).adapt _)) fun text htext => ?_
  match again, again', h with
  | none, none, _ => exact .ret text
  | some x, some y, h =>
    dsimp only
    split
    · refine h.agrees x rfl y rfl text (hsigil.inner text ?_)
      rw [occurrenceText, run_bind_of_ok hvalue]
      dsimp only
      rw [if_neg hv, run_bind_of_ok htext]
      rfl
    · next hm =>
      rw [h.plain y rfl text (Bool.eq_false_iff.2 hm)]
      exact .ret text
  | none, some _, h | some _, none, h => exact absurd h.isSome nofun

theorem replacement_agrees (he : e.Pure) (h : AgainAgrees e find? s P again again')
    {sigil : String} (hsigil : e.Fits find? s P sigil) :
    Agrees (e.Valid find? s) s (e.replacement find? again sigil)
      (e.occurrence find? again' sigil) := by
  refine .tryCatch (text_agrees he h hsigil) fun err => ?_
  split
  · unfold MissPolicy.answer
    cases e.onMiss with
    | raise => exact .fail err
    | keep | drop | text => exact .ret _
  · exact .fail err

/-- The text known of a sigil is that of each of its occurrences. -/
def Known (e : Engine σ) (find? : String → Option Value) (s : σ)
    (again' : Option (String → Eval σ String)) (known : List (String × String)) : Prop :=
  ∀ sigil text, known.lookup sigil = some text →
    (e.occurrence find? again' sigil).run s = (.ok text, s)

theorem Known.nil (e : Engine σ) (find? : String → Option Value) (s : σ)
    (again' : Option (String → Eval σ String)) : Known e find? s again' [] :=
  fun _ _ h => absurd h (by simp)

/-- Nothing in `known` is forgotten in `known'`. -/
def Extends (known known' : List (String × String)) : Prop :=
  ∀ sigil text, known.lookup sigil = some text → known'.lookup sigil = some text

variable {known : List (String × String)} {cache : Table}

/-- The first sigil of several, which is known already, fails or becomes known. -/
theorem replacements_cons (he : e.Pure) (h : AgainAgrees e find? s P again again')
    (hknown : Known e find? s again' known) (hcache : e.Valid find? s cache) {sigil : String}
    (hsigil : e.Fits find? s P sigil) (sigils : List String) :
    ∃ r cache', e.Valid find? s cache' ∧ (e.occurrence find? again' sigil).run s = (r, s) ∧
      (∀ err, r = .error err →
        (e.replacements find? again known (sigil :: sigils)).run ⟨cache, s⟩ =
          (.error err, ⟨cache', s⟩)) ∧
      ∀ text, r = .ok text → ∃ known', Known e find? s again' known' ∧ Extends known known' ∧
        known'.lookup sigil = some text ∧
        (e.replacements find? again known (sigil :: sigils)).run ⟨cache, s⟩ =
          (e.replacements find? again known' sigils).run ⟨cache', s⟩ := by
  rw [replacements.eq_2]
  cases hl : known.lookup sigil with
  | some text =>
    refine ⟨.ok text, cache, hcache, hknown sigil text hl, nofun, ?_⟩
    rintro _ ⟨⟩
    exact ⟨known, hknown, fun _ _ => id, hl, rfl⟩
  | none =>
    rw [if_neg (by simp)]
    obtain ⟨r, cache', hcache', hr, ho⟩ := replacement_agrees he h hsigil cache hcache
    refine ⟨r, cache', hcache', ho, ?_, ?_⟩
    · rintro err rfl
      rw [run_bind_of_error hr]
    · rintro text rfl
      refine ⟨(sigil, text) :: known, fun sigil' text' hl' => ?_, fun sigil' text' hl' => ?_, ?_,
        ?_⟩
      · rw [List.lookup_cons] at hl'
        split at hl'
        · next heq =>
          cases hl'
          rw [eq_of_beq heq, ho]
        · exact hknown sigil' text' hl'
      · rw [List.lookup_cons]
        split
        · next heq =>
          rw [eq_of_beq heq, hl] at hl'
          exact absurd hl' nofun
        · exact hl'
      · rw [List.lookup_cons, beq_self_eq_true]
      · rw [run_bind_of_ok hr]

/-- Replacing the sigils of some pieces one by one gives the pieces with the texts that are known of
their sigils in the end, or the error that kept a sigil from being known. -/
theorem replacements_agrees (he : e.Pure) (h : AgainAgrees e find? s P again again')
    (tail : List Char) (pieces : List Piece)
    (hpieces : ∀ sigil ∈ Extraction.sigils ⟨pieces, tail⟩, e.Fits find? s P sigil)
    (hknown : Known e find? s again' known) (hcache : e.Valid find? s cache) :
    ∃ r cache', e.Valid find? s cache' ∧
      (e.replacements find? again known (Extraction.sigils ⟨pieces, tail⟩)).run ⟨cache, s⟩ =
        (r, ⟨cache', s⟩) ∧
      (∀ known', r = .ok known' → Extends known known') ∧
      (e.replaceEach find? again' tail pieces).run s =
        (r.map fun known' => String.join
          (Extraction.fill (fun sigil => (known'.lookup sigil).getD sigil) ⟨pieces, tail⟩), s) := by
  induction pieces generalizing known cache with
  | nil =>
    refine ⟨.ok known, cache, hcache, rfl, ?_, ?_⟩
    · rintro _ ⟨⟩ sigil text hl
      exact hl
    · simp [replaceEach, Extraction.fill, Except.map]
      rfl
  | cons p ps ih =>
    have hfill (f : String → String) : String.join (Extraction.fill f ⟨p :: ps, tail⟩) =
        String.ofList p.plain ++
          (f (String.ofList p.sigil) ++ String.join (Extraction.fill f ⟨ps, tail⟩)) := by
      simp [Extraction.fill]
    obtain ⟨hp, hps⟩ : e.Fits find? s P (String.ofList p.sigil) ∧
        ∀ sigil ∈ Extraction.sigils ⟨ps, tail⟩, e.Fits find? s P sigil :=
      List.forall_mem_cons.1 hpieces
    obtain ⟨r, cache₁, hcache₁, ho, herr, hok⟩ := replacements_cons he h hknown hcache hp
      (Extraction.sigils ⟨ps, tail⟩)
    cases r with
    | error err =>
      refine ⟨.error err, cache₁, hcache₁, herr err rfl, nofun, ?_⟩
      rw [replaceEach, run_bind_of_error ho]
      rfl
    | ok text =>
      obtain ⟨known₁, hknown₁, hext₁, hl, hrun⟩ := hok text rfl
      obtain ⟨r, cache₂, hcache₂, hr, hext, hrest⟩ := ih hps hknown₁ hcache₁
      refine ⟨r, cache₂, hcache₂, hrun.trans hr, fun known' hk sigil text' h' => ?_, ?_⟩
      · exact hext known' hk sigil text' (hext₁ sigil text' h')
      · rw [replaceEach, run_bind_of_ok ho]
        cases r with
        | error err =>
          rw [run_bind_of_error hrest]
          rfl
        | ok known' =>
          rw [run_bind_of_ok hrest, Except.map, hfill, hext known' rfl _ _ hl]
          rfl

theorem level_agrees (he : e.Pure) (h : AgainAgrees e find? s P again again') {text : String}
    (htext : ∀ sigil ∈ (e.delimiters.extract text).sigils, e.Fits find? s P sigil) :
    Agrees (e.Valid find? s) s (String.join <$> e.level find? again text)
      (e.replaceEach find? again' (e.delimiters.extract text).tail
        (e.delimiters.extract text).pieces) := by
  intro cache hcache
  obtain ⟨r, cache', hcache', hr, -, hy⟩ :=
    replacements_agrees he h (e.delimiters.extract text).tail
    (e.delimiters.extract text).pieces htext (Known.nil e find? s again') hcache
  refine ⟨_, cache', hcache', ?_, hy⟩
  rw [run_map, level]
  cases r with
  | error err =>
    rw [run_bind_of_error hr]
    rfl
  | ok known' =>
    rw [run_bind_of_ok hr]
    rfl

/-- Each depth of splicing agrees with that depth of `reference`. -/
theorem chunks_agrees (he : e.Pure) {depth : Nat} {text : String}
    (hviews : ∀ sigil, e.Meets find? s depth text sigil → e.ViewsAlike find? sigil) :
    Agrees (e.Valid find? s) s (String.join <$> e.chunks find? depth text)
      (e.reference find? depth text) := by
  induction depth generalizing text with
  | zero =>
    exact level_agrees he (P := fun _ => True) .none fun sigil h =>
      ⟨hviews sigil (.here h), fun _ _ => trivial⟩
  | succ depth ih =>
    -- the texts in question are those which lead on to sigils that do not tell the views apart
    refine level_agrees he (P := fun inner =>
      ∀ sigil, e.Meets find? s depth inner sigil → e.ViewsAlike find? sigil) ⟨rfl, ?_, ?_⟩
      fun sigil h => ⟨hviews sigil (.here h), fun _ ht sigil' hm => hviews sigil' (.deeper h ht hm)⟩
    · rintro _ ⟨⟩ _ ⟨⟩ text htext
      exact ih htext
    · rintro _ ⟨⟩ text hm
      exact reference_of_mayHoldSigil_eq_false hm depth

end Engine

/-- **Splicing is splicing without a memory.** For a pure host and a pure formatter, from a cache in
which every value is what its sigil resolves to now, splicing gives the text or the error of
`Engine.reference`. It changes no layer and not the host, and the cache is as right as it was
(`Engine.Valid`). The sigils that the text leads to (`Engine.Meets`) must not tell views of the
environment apart (`Engine.ViewsAlike`): each access to `SYS.ENV` makes another, and splicing makes
fewer of them than the reference. -/
theorem splice_eq_reference (e : Engine σ) (c : Context) (text : String) (s : σ) (he : e.Pure)
    (hviews : ∀ sigil, e.Meets c.get? s e.maxDepth text sigil → e.ViewsAlike c.get? sigil)
    (hc : e.Valid c.get? s c.cache) :
    ∃ cache, e.Valid c.get? s cache ∧
      (e.splice c text).run s =
        ((((e.reference c.get? e.maxDepth text).run s).1, { c with cache }), s) := by
  obtain ⟨r, cache, hcache, hr, hy⟩ := Engine.chunks_agrees he hviews c.cache hc
  refine ⟨cache, hcache, ?_⟩
  rw [Engine.splice, Context.run_splicing, hr, hy]

/-- Two names, one bound to a sigil with the other, whose value is kept. -/
def Context.linked : Context where
  id := 0
  base := (Table.empty.insert "Y" (.int 1)).insert "X" (.str "[Y]")
  pushed := []
  cache := Table.empty.insert "[Y]" (.int 1)

theorem splice_eq_reference_linked :
    let e := Engine.new Host.fresh
    let find? := Context.linked.get?
    e.Pure ∧ (∀ sigil, e.Meets find? 0 6 "[X], [X] and [Y]" sigil → e.ViewsAlike find? sigil) ∧
      e.Valid find? 0 Context.linked.cache ∧
      ∃ cache, e.Valid find? 0 cache ∧ (e.splice Context.linked "[X], [X] and [Y]").run 0 =
        ((((e.reference find? 6 "[X], [X] and [Y]").run 0).1,
          { Context.linked with cache }), 0) := by
  intro e find?
  have hX (view : Nat) : (e.viewing view).resolve find? "[X]" = pure (.str "[Y]") := by cbv
  have hX' : e.resolve find? "[X]" = pure (.str "[Y]") := by cbv
  have hY (view : Nat) : (e.viewing view).resolve find? "[Y]" = pure (.int 1) := by cbv
  have hY' : e.resolve find? "[Y]" = pure (.int 1) := by cbv
  have hpure : e.Pure := ⟨Host.fresh_pure, Host.fresh_pure.format⟩
  have hextract (text : String) (h : text = "[X], [X] and [Y]" ∨ text = "[Y]" ∨ text = "1") :
      ∀ sigil ∈ (Delimiters.square.extract text).sigils, sigil = "[X]" ∨ sigil = "[Y]" := by
    rcases h with rfl | rfl | rfl <;>
      simp [Delimiters.extract, Extraction.sigils, Delimiters.scan_cons, Delimiters.scan,
        Delimiters.close?, Delimiters.square, stripStart?, balancesQuotes, Extraction.prepend]
  have hx : (e.occurrenceText find? none "[X]").run 0 = (.ok "[Y]", 0) := by cbv
  have hy : (e.occurrenceText find? none "[Y]").run 0 = (.ok "1", 0) := by cbv
  have hmeets {depth : Nat} {text sigil : String} (h : e.Meets find? 0 depth text sigil)
      (htext : text = "[X], [X] and [Y]" ∨ text = "[Y]" ∨ text = "1") :
      sigil = "[X]" ∨ sigil = "[Y]" := by
    induction h with
    | here h => exact hextract _ htext _ h
    | deeper h ht _ ih =>
      rcases hextract _ htext _ h with rfl | rfl
      · cases hx.symm.trans ht
        exact ih (.inr (.inl rfl))
      · cases hy.symm.trans ht
        exact ih (.inr (.inr rfl))
  have hviews (sigil : String) (h : e.Meets find? 0 6 "[X], [X] and [Y]" sigil) :
      e.ViewsAlike find? sigil := by
    rcases hmeets h (.inl rfl) with rfl | rfl
    · exact ⟨0, (hX 0).trans hX'.symm⟩
    · exact ⟨0, (hY 0).trans hY'.symm⟩
  have hvalid : e.Valid find? 0 Context.linked.cache := by
    intro sigil v h
    rw [show Context.linked.cache = Table.empty.insert "[Y]" (.int 1) from rfl,
      Table.get?_insert] at h
    split at h
    · next heq =>
      cases h
      rw [heq]
      cbv
    · cases h
  exact ⟨hpure, hviews, hvalid, splice_eq_reference e _ _ 0 hpure hviews hvalid⟩

end Interpolation
