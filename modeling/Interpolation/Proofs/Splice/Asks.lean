import Interpolation.Proofs.Extraction.Restoration
import Interpolation.Proofs.Splice.Work

/-!
# What splicing asks for

Splicing a text asks for the values of some sigils, one after another, at its own level and in the
texts of values; an answer may come from the cache or may have to be resolved. `Engine.asks` lists
the sigils asked for with the work at that time. Apart from answering, splicing only writes values
as text (`Engine.chunks_traced`). So nothing else of it touches the cache (`Engine.chunks_asked`):
from each question to the next it is what the answer to the first has left.

Which sigils are asked for is also said without a list of them: at each level that splicing enters,
those that it reaches when it has replaced the ones before (`Engine.mem_asks_iff`). It reaches all
sigils of a text that is spliced, and what it gets for one when it first does stands in place of all
its occurrences (`Engine.fill_of_chunks`).
-/

namespace Interpolation

variable {σ α β : Type}

/-- A sigil that is asked for, and the work at that time. -/
structure Ask (σ : Type) where
  sigil : String
  work : Work σ

namespace Engine

variable (e : Engine σ) (find? : String → Option Value)

/-- What the text of a sigil asks for: its value and, if that has a text which is spliced in turn,
what `asks` says of that text. -/
def textAsks (asks : String → Work σ → List (Ask σ)) (sigil : String) (w : Work σ) : List (Ask σ) :=
  ⟨sigil, w⟩ ::
    match (e.text find? none sigil).run w with
    | (.ok text, w) => if e.delimiters.mayHoldSigil text then asks text w else []
    | (.error _, _) => []

/-- What the replacements of sigils ask for. -/
def replacementsAsks (again : Option (String → Splice σ (List String)))
    (asks : String → Work σ → List (Ask σ)) (known : List (String × String)) :
    List String → Work σ → List (Ask σ)
  | [], _ => []
  | sigil :: sigils, w =>
    if (known.lookup sigil).isSome then replacementsAsks again asks known sigils w
    else
      e.textAsks find? asks sigil w ++
        match (e.replacement find? again sigil).run w with
        | (.ok text, w) => replacementsAsks again asks ((sigil, text) :: known) sigils w
        | (.error _, _) => []

/-- What splicing a text asks for, in order, with some depth left. -/
def asks : Nat → String → Work σ → List (Ask σ)
  | 0, text, w =>
    e.replacementsAsks find? none (fun _ _ => []) [] (e.delimiters.extract text).sigils w
  | depth + 1, text, w =>
    e.replacementsAsks find? (some (e.chunks find? depth)) (asks depth) []
      (e.delimiters.extract text).sigils w

/-- From one work to another splicing asks for the values of some sigils, one after another, and
writes values as text in between. -/
inductive Traced : Work σ → List (Ask σ) → Work σ → Prop where
  | done (w : Work σ) : Traced w [] w
  | ask {w w' : Work σ} {sigil : String} {as : List (Ask σ)}
    (hs : Traced ((e.value find? sigil).run w).2 as w') : Traced w (⟨sigil, w⟩ :: as) w'
  | write {w w' : Work σ} {as : List (Ask σ)} (v : Value)
    (hs : Traced { w with host := ((e.format v).run w.host).2 } as w') : Traced w as w'

/-- From one work to another the cache changes by the answers to some questions alone. -/
inductive Asked : Work σ → List (Ask σ) → Work σ → Prop where
  | done {w w' : Work σ} (h : w'.cache = w.cache) : Asked w [] w'
  | ask {w w' : Work σ} {a : Ask σ} {as : List (Ask σ)} (h : a.work.cache = w.cache)
    (hs : Asked ((e.value find? a.sigil).run a.work).2 as w') : Asked w (a :: as) w'

variable {e find?}
variable {w w' w'' : Work σ} {as bs : List (Ask σ)}

theorem Traced.trans (h : Traced e find? w as w') (h' : Traced e find? w' bs w'') :
    Traced e find? w (as ++ bs) w'' := by
  induction h with
  | done => exact h'
  | ask _ ih => exact .ask (ih h')
  | write v _ ih => exact .write v (ih h')

theorem Traced.asked (h : Traced e find? w as w') : Asked e find? w as w' := by
  induction h with
  | done => exact .done rfl
  | ask _ ih => exact .ask rfl ih
  | write v _ ih =>
    cases ih with
    | done hc => exact .done hc
    | ask hc hs => exact .ask hc hs

end Engine

theorem MissPolicy.run_answer (policy : MissPolicy) (sigil : String) (err : Error) (w : Work σ) :
    ((policy.answer sigil err).run w).2 = w := by
  cases policy <;> rfl

namespace Engine

variable {e : Engine σ} {find? : String → Option Value}
    {again : Option (String → Splice σ (List String))}

/-- What becomes of the text of a value. -/
def spliceText (e : Engine σ) (again : Option (String → Splice σ (List String))) (text : String) :
    Splice σ String :=
  match again with
  | some again => if e.delimiters.mayHoldSigil text then String.join <$> again text else return text
  | none => return text

theorem text_eq_bind (sigil : String) :
    e.text find? again sigil = e.text find? none sigil >>= e.spliceText again := by
  unfold text
  rw [bind_assoc]
  refine bind_congr fun v => ?_
  dsimp only
  by_cases hv : v.isNone = true
  · rw [if_pos hv, if_pos hv]
    rfl
  · rw [if_neg hv, if_neg hv, bind_assoc]
    rfl

theorem text_none_traced (sigil : String) (w : Work σ) :
    Traced e find? w [⟨sigil, w⟩] ((e.text find? none sigil).run w).2 := by
  refine .ask ?_
  unfold text
  rcases hv : (e.value find? sigil).run w with ⟨err | v, w'⟩
  · rw [run_bind_of_error hv]
    exact .done w'
  · rw [run_bind_of_ok hv]
    dsimp only
    by_cases hn : v.isNone = true
    · rw [if_pos hn]
      exact .done w'
    · rw [if_neg hn, bind_pure]
      exact .write v (.done _)

section
variable {asks : String → Work σ → List (Ask σ)} (hno : again = none → ∀ text w, asks text w = [])
  (hasks : ∀ x ∈ again, ∀ text w, Traced e find? w (asks text w) ((x text).run w).2)
include hno hasks

theorem spliceText_traced (text : String) (w : Work σ) :
    Traced e find? w (if e.delimiters.mayHoldSigil text then asks text w else [])
      ((e.spliceText again text).run w).2 := by
  cases again with
  | none =>
    rw [hno rfl, ite_self]
    exact .done w
  | some x =>
    rw [spliceText]
    split
    · rw [run_map]
      exact hasks x rfl text w
    · exact .done w

theorem text_traced (sigil : String) (w : Work σ) :
    Traced e find? w (e.textAsks find? asks sigil w) ((e.text find? again sigil).run w).2 := by
  have hask : Traced e find? w [⟨sigil, w⟩] _ := text_none_traced sigil w
  have heq : e.text find? again sigil = _ := text_eq_bind sigil
  rw [textAsks, heq]
  rcases ht : (e.text find? none sigil).run w with ⟨err | text, w'⟩
  · rw [run_bind_of_error ht]
    rw [ht] at hask
    exact hask
  · rw [run_bind_of_ok ht]
    rw [ht] at hask
    exact hask.trans (spliceText_traced hno hasks text w')

theorem replacement_traced (sigil : String) (w : Work σ) :
    Traced e find? w (e.textAsks find? asks sigil w)
      ((e.replacement find? again sigil).run w).2 := by
  have hask := text_traced hno hasks sigil w
  unfold replacement
  rcases ht : (e.text find? again sigil).run w with ⟨err | text, w'⟩
  · rw [run_tryCatch_of_error ht]
    rw [ht] at hask
    split
    · rw [MissPolicy.run_answer]
      exact hask
    · exact hask
  · rw [run_tryCatch_of_ok ht]
    rw [ht] at hask
    exact hask

theorem replacements_traced (sigils : List String) (known : List (String × String)) (w : Work σ) :
    Traced e find? w (e.replacementsAsks find? again asks known sigils w)
      ((e.replacements find? again known sigils).run w).2 := by
  induction sigils generalizing known w with
  | nil => exact .done w
  | cons sigil sigils ih =>
    rw [replacementsAsks, replacements]
    split
    · exact ih known w
    · have hask := replacement_traced hno hasks sigil w
      rcases ht : (e.replacement find? again sigil).run w with ⟨err | text, w'⟩
      · rw [run_bind_of_error ht]
        rw [ht] at hask
        rw [List.append_nil]
        exact hask
      · rw [run_bind_of_ok ht]
        rw [ht] at hask
        exact hask.trans (ih _ w')

theorem level_traced (text : String) (w : Work σ) :
    Traced e find? w (e.replacementsAsks find? again asks [] (e.delimiters.extract text).sigils w)
      ((e.level find? again text).run w).2 := by
  have hask := replacements_traced hno hasks (e.delimiters.extract text).sigils [] w
  unfold level
  rcases ht : (e.replacements find? again [] (e.delimiters.extract text).sigils).run w with
    ⟨err | known, w'⟩
  · rw [run_bind_of_error ht]
    rw [ht] at hask
    exact hask
  · rw [run_bind_of_ok ht]
    rw [ht] at hask
    exact hask

end

/-- **Splicing asks for the sigils that `asks` lists, in order, and writes values as text.** It does
nothing else to the cache or the host. -/
theorem chunks_traced (depth : Nat) (text : String) (w : Work σ) :
    Traced e find? w (e.asks find? depth text w) ((e.chunks find? depth text).run w).2 := by
  induction depth generalizing text w with
  | zero => exact level_traced (fun _ _ _ => rfl) (fun _ h => absurd h (by simp)) text w
  | succ depth ih =>
    refine level_traced (fun h => absurd h (by simp)) ?_ text w
    rintro _ ⟨⟩ text w
    exact ih text w

/-- **Splicing changes the cache by the answers to what it asks for, in order.** -/
theorem chunks_asked (depth : Nat) (text : String) (w : Work σ) :
    Asked e find? w (e.asks find? depth text w) ((e.chunks find? depth text).run w).2 :=
  (chunks_traced depth text w).asked

/-! ## Levels -/

section
variable (e find?)

/-- How the texts of values are spliced in turn, for a depth that is left. -/
def inner? : Nat → Option (String → Splice σ (List String))
  | 0 => none
  | depth + 1 => some (e.chunks find? depth)

/-- At the level of a text, splicing comes to a sigil of it when the ones before have been replaced,
and it is none of these. -/
def Reaches (depth : Nat) (text : String) (w : Work σ) (sigil : String) (w' : Work σ) : Prop :=
  ∃ before after known, (e.delimiters.extract text).sigils = before ++ sigil :: after ∧
    (e.replacements find? (e.inner? find? depth) [] before).run w = (.ok known, w') ∧
    known.lookup sigil = none

/-- Splicing a text comes to a level, its own or that of the text of a value: the depth that is left
there, the text and the work. -/
inductive Enters : Nat → String → Work σ → Nat → String → Work σ → Prop where
  | here (depth : Nat) (text : String) (w : Work σ) : Enters depth text w depth text w
  | deeper {depth depth' : Nat} {text sigil inner text' : String} {w w₁ w₂ w' : Work σ}
    (hr : e.Reaches find? (depth + 1) text w sigil w₁)
    (ht : (e.text find? none sigil).run w₁ = (.ok inner, w₂))
    (hm : e.delimiters.mayHoldSigil inner = true) (h : Enters depth inner w₂ depth' text' w') :
    Enters (depth + 1) text w depth' text' w'

end

theorem chunks_eq_level (depth : Nat) (text : String) :
    e.chunks find? depth text = e.level find? (e.inner? find? depth) text := by
  cases depth <;> rfl

/-- A text without a sigil asks for nothing and is spliced to itself. -/
theorem join_level_of_no_sigils {text : String} (h : (e.delimiters.extract text).sigils = []) :
    String.join <$> e.level find? again text = pure text := by
  rw [level, h, replacements, pure_bind, map_pure]
  exact congrArg (fun out => (pure out : Splice σ String)) (e.delimiters.join_fill_self text)

/-- Splicing a text without a sigil does nothing. -/
theorem run_splice_of_no_sigils {c : Context} {text : String}
    (h : (e.delimiters.extract text).sigils = []) (s : σ) :
    (e.splice c text).run s = ((.ok text, c), s) := by
  have hself : String.join <$> e.chunks c.get? e.maxDepth text = pure text := by
    rw [chunks_eq_level]
    exact join_level_of_no_sigils h
  rw [splice, hself]
  rfl

section
variable {sigil out : String} {v : Value} {w w' : Work σ} {s : σ}

/-- The text of a sigil, as long as it is not spliced in turn, is that of its value. -/
theorem run_text_of_value (hvalue : (e.value find? sigil).run w = (.ok v, w'))
    (hnone : v.isNone = false) (hformat : (e.format v).run w'.host = (.ok out, s)) :
    (e.text find? none sigil).run w = (.ok out, { w' with host := s }) := by
  have hwrite : (Splice.ofHost ((e.format v).adapt
      (·.locate sigil ⟨0, Text.byteLength sigil.toList⟩))).run w' =
      (.ok out, { w' with host := s }) := by
    rw [Splice.run_ofHost, run_adapt, hformat]
    rfl
  unfold text
  rw [run_bind_of_ok hvalue]
  dsimp only
  rw [if_neg (Bool.eq_false_iff.1 hnone)]
  exact run_bind_of_ok hwrite

/-- A sigil is replaced by its text, if that is spliced to itself. -/
theorem run_replacement_of_text (htext : (e.text find? none sigil).run w = (.ok out, w'))
    (hself : e.spliceText again out = pure out) :
    (e.replacement find? again sigil).run w = (.ok out, w') := by
  refine run_tryCatch_of_ok ?_
  rw [text_eq_bind, run_bind_of_ok htext, hself]
  rfl

theorem spliceText_of_not_mayHoldSigil (hout : e.delimiters.mayHoldSigil out = false) :
    e.spliceText again out = pure out := by
  cases again with
  | none => rfl
  | some again => exact if_neg (Bool.eq_false_iff.1 hout)

variable (hextract : e.delimiters.extract sigil = ⟨[⟨[], sigil.toList⟩], []⟩)
include hextract

/-- A text that is one sigil asks for that alone, if its own text cannot hold another. -/
theorem asks_of_sigil (htext : (e.text find? none sigil).run w = (.ok out, w'))
    (hout : e.delimiters.mayHoldSigil out = false) (depth : Nat) :
    e.asks find? depth sigil w = [⟨sigil, w⟩] := by
  have hasks (asks : String → Work σ → List (Ask σ)) :
      e.textAsks find? asks sigil w = [⟨sigil, w⟩] := by
    rw [textAsks, htext]
    dsimp only
    rw [if_neg (Bool.eq_false_iff.1 hout)]
  have hreplacement (again : Option (String → Splice σ (List String))) :
      (e.replacement find? again sigil).run w = (.ok out, w') :=
    run_replacement_of_text htext (spliceText_of_not_mayHoldSigil hout)
  cases depth <;>
    rw [asks, Delimiters.sigils_of_extract hextract, replacementsAsks, if_neg (by simp), hasks,
      hreplacement, List.singleton_append] <;>
    rfl

/-- A text that is one sigil is spliced to what stands in its place. -/
theorem run_splice_of_sigil {c : Context}
    (h : (e.replacement c.get? (e.inner? c.get? e.maxDepth) sigil).run ⟨c.cache, s⟩ =
      (.ok out, w)) :
    (e.splice c sigil).run s = ((.ok out, { c with cache := w.cache }), w.host) := by
  have hrun : (e.replacements c.get? (e.inner? c.get? e.maxDepth) [] [sigil]).run ⟨c.cache, s⟩ =
      (.ok [(sigil, out)], w) := run_bind_of_ok h
  have hfill : (e.delimiters.extract sigil).fill
      (fun name => ([(sigil, out)].lookup name).getD name) = ["", out, ""] := by
    rw [hextract, Extraction.fill]
    simp
  have hjoin : String.join ["", out, ""] = out := by simp [String.join]
  rw [splice, Context.run_splicing, run_map, chunks_eq_level, level,
    Delimiters.sigils_of_extract hextract, run_bind_of_ok hrun, hfill]
  exact congrArg (fun out => ((Except.ok out, { c with cache := w.cache }), w.host)) hjoin

/-- What stands in place of a sigil is the text of its value, if that cannot hold another sigil. -/
theorem run_splice_of_value {c : Context} {t : σ}
    (hvalue : (e.value c.get? sigil).run ⟨c.cache, t⟩ = (.ok v, w)) (hnone : v.isNone = false)
    (hformat : (e.format v).run w.host = (.ok out, s))
    (hout : e.delimiters.mayHoldSigil out = false) :
    (e.splice c sigil).run t = ((.ok out, { c with cache := w.cache }), s) := by
  have htext := run_text_of_value hvalue hnone hformat
  have hself : e.spliceText (e.inner? c.get? e.maxDepth) out = pure out :=
    spliceText_of_not_mayHoldSigil hout
  exact run_splice_of_sigil hextract (run_replacement_of_text htext hself)

end

theorem mem_textAsks_iff {asks : String → Work σ → List (Ask σ)} {sigil : String} {w : Work σ}
    {a : Ask σ} :
    a ∈ e.textAsks find? asks sigil w ↔ a = ⟨sigil, w⟩ ∨
    ∃ text w', (e.text find? none sigil).run w = (.ok text, w') ∧
      e.delimiters.mayHoldSigil text = true ∧ a ∈ asks text w' := by
  rw [textAsks, List.mem_cons]
  refine or_congr_right ?_
  rcases ht : (e.text find? none sigil).run w with ⟨err | text, w'⟩
  · exact iff_of_false (List.not_mem_nil) nofun
  · dsimp only
    constructor
    · intro h
      split at h
      · next hm => exact ⟨text, w', rfl, hm, h⟩
      · cases h
    · rintro ⟨_, _, ⟨⟩, hm, h⟩
      rwa [if_pos hm]

/-- What the replacements of sigils ask for is what the text of one of them asks for, when those
before have been replaced. -/
theorem mem_replacementsAsks_iff {asks : String → Work σ → List (Ask σ)} {sigils : List String}
    {known : List (String × String)} {w : Work σ} {a : Ask σ} :
    a ∈ e.replacementsAsks find? again asks known sigils w ↔ ∃ before sigil after known' w',
      sigils = before ++ sigil :: after ∧
      (e.replacements find? again known before).run w = (.ok known', w') ∧
        known'.lookup sigil = none ∧ a ∈ e.textAsks find? asks sigil w' := by
  induction sigils generalizing known w with
  | nil =>
    refine iff_of_false (List.not_mem_nil) ?_
    rintro ⟨before, sigil, after, -, -, hsplit, -⟩
    cases before <;> cases hsplit
  | cons sigil sigils ih =>
    rw [replacementsAsks]
    by_cases hknown : (known.lookup sigil).isSome = true
    · rw [if_pos hknown, ih]
      constructor
      · rintro ⟨before, sigil', after, known', w', rfl, hrun, hnew, ha⟩
        refine ⟨sigil :: before, sigil', after, known', w', rfl, ?_, hnew, ha⟩
        rwa [replacements, if_pos hknown]
      · rintro ⟨before, sigil', after, known', w', hsplit, hrun, hnew, ha⟩
        cases before with
        | nil =>
          cases hsplit
          cases hrun
          rw [hnew] at hknown
          cases hknown
        | cons b before =>
          cases hsplit
          rw [replacements, if_pos hknown] at hrun
          exact ⟨before, sigil', after, known', w', rfl, hrun, hnew, ha⟩
    · rw [if_neg hknown, List.mem_append]
      constructor
      · rintro (ha | ha)
        · exact ⟨[], sigil, sigils, known, w, rfl, rfl, Option.not_isSome_iff_eq_none.1 hknown, ha⟩
        · rcases hr : (e.replacement find? again sigil).run w with ⟨err | text, w₁⟩
          · rw [hr] at ha
            cases ha
          · rw [hr] at ha
            obtain ⟨before, sigil', after, known', w', rfl, hrun, hnew, ha⟩ := ih.1 ha
            refine ⟨sigil :: before, sigil', after, known', w', rfl, ?_, hnew, ha⟩
            rw [replacements, if_neg hknown, run_bind_of_ok hr]
            exact hrun
      · rintro ⟨before, sigil', after, known', w', hsplit, hrun, hnew, ha⟩
        cases before with
        | nil =>
          cases hsplit
          cases hrun
          exact .inl ha
        | cons b before =>
          cases hsplit
          rw [replacements, if_neg hknown] at hrun
          rcases hr : (e.replacement find? again sigil).run w with ⟨err | text, w₁⟩
          · rw [run_bind_of_error hr] at hrun
            cases hrun
          · rw [run_bind_of_ok hr] at hrun
            exact .inr (ih.2 ⟨before, sigil', after, known', w', rfl, hrun, hnew, ha⟩)

/-- **Splicing asks for the sigils that it `Reaches` at the levels it `Enters`.** -/
theorem mem_asks_iff {depth : Nat} {text sigil : String} {w w' : Work σ} :
    ⟨sigil, w'⟩ ∈ e.asks find? depth text w ↔
    ∃ depth' text' w₀, e.Enters find? depth text w depth' text' w₀ ∧
      e.Reaches find? depth' text' w₀ sigil w' := by
  induction depth generalizing text w with
  | zero =>
    rw [asks, mem_replacementsAsks_iff]
    constructor
    · rintro ⟨before, sigil', after, known, w₁, hsplit, hrun, hnew, ha⟩
      rcases mem_textAsks_iff.1 ha with heq | ⟨_, _, _, _, ha⟩
      · cases heq
        exact ⟨0, text, w, .here .., before, after, known, hsplit, hrun, hnew⟩
      · cases ha
    · rintro ⟨depth', text', w₀, henters, hreaches⟩
      cases henters
      obtain ⟨before, after, known, hsplit, hrun, hnew⟩ := hreaches
      exact ⟨before, sigil, after, known, w', hsplit, hrun, hnew, mem_textAsks_iff.2 (.inl rfl)⟩
  | succ depth ih =>
    rw [asks, mem_replacementsAsks_iff]
    constructor
    · rintro ⟨before, outer, after, known, w₁, hsplit, hrun, hnew, ha⟩
      have hreaches : e.Reaches find? (depth + 1) text w outer w₁ :=
        ⟨before, after, known, hsplit, hrun, hnew⟩
      rcases mem_textAsks_iff.1 ha with heq | ⟨inner, w₂, ht, hm, ha⟩
      · cases heq
        exact ⟨depth + 1, text, w, .here .., hreaches⟩
      · obtain ⟨depth', text', w₀, henters, hinner⟩ := ih.1 ha
        exact ⟨depth', text', w₀, .deeper hreaches ht hm henters, hinner⟩
    · rintro ⟨depth', text', w₀, henters, hreaches⟩
      cases henters with
      | here =>
        obtain ⟨before, after, known, hsplit, hrun, hnew⟩ := hreaches
        exact ⟨before, sigil, after, known, w', hsplit, hrun, hnew, mem_textAsks_iff.2 (.inl rfl)⟩
      | @deeper _ _ _ outer inner _ _ w₁ w₂ _ hr ht hm h =>
        obtain ⟨before, after, known, hsplit, hrun, hnew⟩ := hr
        exact ⟨before, outer, after, known, w₁, hsplit, hrun, hnew,
          mem_textAsks_iff.2 (.inr ⟨inner, w₂, ht, hm, ih.2 ⟨depth', text', w₀, h, hreaches⟩⟩)⟩

/-- After `replacements` all sigils are known: one has the text that was known of it before, or its
replacement, from where splicing came to it first. -/
theorem known_of_replacements {known known' : List (String × String)} {sigils : List String}
    {w w' : Work σ} (h : (e.replacements find? again known sigils).run w = (.ok known', w'))
    {sigil : String} (hs : (known.lookup sigil).isSome = true ∨ sigil ∈ sigils) :
    ∃ text, known'.lookup sigil = some text ∧ (known.lookup sigil = some text ∨
      ∃ before after known₁ w₁ w₂, sigils = before ++ sigil :: after ∧
        (e.replacements find? again known before).run w = (.ok known₁, w₁) ∧
        known₁.lookup sigil = none ∧
        (e.replacement find? again sigil).run w₁ = (.ok text, w₂)) := by
  induction sigils generalizing known w with
  | nil =>
    cases h
    obtain ⟨text, ht⟩ := Option.isSome_iff_exists.1 (hs.resolve_right List.not_mem_nil)
    exact ⟨text, ht, .inl ht⟩
  | cons first sigils ih =>
    rw [replacements] at h
    by_cases hknown : (known.lookup first).isSome = true
    · rw [if_pos hknown] at h
      have hs' : (known.lookup sigil).isSome = true ∨ sigil ∈ sigils := by
        rcases hs with hs | hs
        · exact .inl hs
        · rcases List.mem_cons.1 hs with rfl | hs
          · exact .inl hknown
          · exact .inr hs
      obtain ⟨text, ht, hbefore | ⟨before, after, known₁, w₁, w₂, rfl, hrun, hnew, hr⟩⟩ := ih h hs'
      · exact ⟨text, ht, .inl hbefore⟩
      · refine ⟨text, ht, .inr ⟨first :: before, after, known₁, w₁, w₂, rfl, ?_, hnew, hr⟩⟩
        rwa [replacements, if_pos hknown]
    · rw [if_neg hknown] at h
      rcases hfirst : (e.replacement find? again first).run w with ⟨err | t, w₀⟩
      · rw [run_bind_of_error hfirst] at h
        cases h
      · rw [run_bind_of_ok hfirst] at h
        have hs' : (((first, t) :: known).lookup sigil).isSome = true ∨ sigil ∈ sigils := by
          rw [List.lookup_cons]
          cases hbeq : sigil == first with
          | true => exact .inl rfl
          | false =>
            exact hs.imp_right fun hs => (List.mem_cons.1 hs).resolve_left (ne_of_beq_false hbeq)
        obtain ⟨text, ht, hbefore | ⟨before, after, known₁, w₁, w₂, rfl, hrun,
            hnew, hr⟩⟩ := ih h hs'
        · refine ⟨text, ht, ?_⟩
          rw [List.lookup_cons] at hbefore
          cases hbeq : sigil == first with
          | true =>
            rw [hbeq] at hbefore
            cases hbefore
            cases eq_of_beq hbeq
            exact .inr ⟨[], sigils, known, w, w₀, rfl, rfl,
              Option.not_isSome_iff_eq_none.1 hknown, hfirst⟩
          | false =>
            rw [hbeq] at hbefore
            exact .inl hbefore
        · refine ⟨text, ht, .inr ⟨first :: before, after, known₁, w₁, w₂, rfl, ?_, hnew, hr⟩⟩
          rw [replacements, if_neg hknown, run_bind_of_ok hfirst]
          exact hrun

/-- **Every sigil of a level is reached, once, and has one text there.** If a text is spliced, all
occurrences of a sigil in it are replaced by what splicing got for it when it came to the first of
them. -/
theorem fill_of_chunks {depth : Nat} {text : String} {w w' : Work σ} {out : List String}
    (h : (e.chunks find? depth text).run w = (.ok out, w')) :
    ∃ replace : String → String, out = (e.delimiters.extract text).fill replace ∧
      ∀ sigil ∈ (e.delimiters.extract text).sigils, ∃ w₁ w₂, e.Reaches find? depth text w sigil w₁ ∧
        (e.replacement find? (e.inner? find? depth) sigil).run w₁ = (.ok (replace sigil), w₂) := by
  rw [chunks_eq_level, level] at h
  rcases hr : (e.replacements find? (e.inner? find? depth) []
    (e.delimiters.extract text).sigils).run w
    with ⟨err | known, w₁⟩
  · rw [run_bind_of_error hr] at h
    cases h
  · rw [run_bind_of_ok hr] at h
    cases h
    refine ⟨_, rfl, fun sigil hmem => ?_⟩
    obtain ⟨t, ht, hnone | ⟨before, after, known₁, w₁, w₂, hsplit, hrun, hnew, hreplace⟩⟩ :=
      known_of_replacements hr (.inr hmem)
    · cases hnone
    · rw [ht]
      exact ⟨w₁, w₂, ⟨before, after, known₁, hsplit, hrun, hnew⟩, hreplace⟩

end Engine
end Interpolation
