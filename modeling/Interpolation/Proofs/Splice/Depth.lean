import Interpolation.Proofs.Extraction.Restoration
import Interpolation.Proofs.Splice.Policy

/-!
# What the depth decides

With a larger depth the texts of values that are written where no depth is left are spliced as well,
and nothing else is. So if no sigil is extracted from any of these texts, it changes nothing
(`Engine.splice_deeper`), although texts that seem to hold one are looked into: a text from which
nothing is extracted is spliced to itself and asks for nothing (`Engine.spliceText_of_plain`).

The proof compares two runs level by level. They do the same at a level if they do the same with the
texts of the values of all sigils that are reached there (`Engine.run_level_congr`).
-/

namespace Interpolation

open Text

variable {σ : Type}

theorem Extraction.pieces_of_spans {e : Extraction} (h : e.spans = []) : e.pieces = [] := by
  obtain ⟨⟨⟩ | ⟨p, ps⟩, tail⟩ := e
  · rfl
  · cases h

namespace Engine

/-- The engine with `depth` in place of its own. -/
def withDepth (e : Engine σ) (depth : Nat) : Engine σ := { e with maxDepth := depth }

/-- Splicing a text writes the value of a sigil where no depth is left. -/
def WritesLast (e : Engine σ) (find? : String → Option Value) (depth : Nat) (text : String)
    (w : Work σ) (last : String) : Prop :=
  ∃ text' w₀ sigil w₁ w₂, e.Enters find? depth text w 0 text' w₀ ∧
  e.Reaches find? 0 text' w₀ sigil w₁ ∧
    (e.text find? none sigil).run w₁ = (.ok last, w₂)

variable {e : Engine σ} {find? : String → Option Value}
    {again again' : Option (String → Splice σ (List String))}
  {sigil text inner last : String} {w w₁ w₂ : Work σ} {depth : Nat}

theorem WritesLast.here (hr : e.Reaches find? 0 text w sigil w₁)
    (ht : (e.text find? none sigil).run w₁ = (.ok last, w₂)) : e.WritesLast find? 0 text w last :=
  ⟨text, w, sigil, w₁, w₂, .here .., hr, ht⟩

theorem WritesLast.deeper (h : e.WritesLast find? depth inner w₂ last)
    (hr : e.Reaches find? (depth + 1) text w sigil w₁)
    (ht : (e.text find? none sigil).run w₁ = (.ok inner, w₂))
    (hm : e.delimiters.mayHoldSigil inner = true) : e.WritesLast find? (depth + 1) text w last := by
  obtain ⟨text', w₀, sigil', w₁', w₂', henters, hlast⟩ := h
  exact ⟨text', w₀, sigil', w₁', w₂', .deeper hr ht hm henters, hlast⟩

section
variable (e find?) (n : Nat)

theorem replacements_withDepth (known : List (String × String)) (sigils : List String) :
    (e.withDepth n).replacements find? again known sigils =
      e.replacements find? again known sigils := by
  induction sigils generalizing known with
  | nil => rfl
  | cons sigil sigils ih =>
    rw [replacements, replacements, ih]
    exact congrArg (ite _ _) (bind_congr fun text => ih _)

/-- `maxDepth` is what splicing starts with, and nothing else asks for it. -/
theorem chunks_withDepth (depth : Nat) :
    (e.withDepth n).chunks find? depth = e.chunks find? depth := by
  funext text
  induction depth generalizing text with
  | zero => exact congrArg (· >>= _) (replacements_withDepth e find? n [] _)
  | succ depth ih =>
    rw [chunks, chunks, funext ih]
    exact congrArg (· >>= _) (replacements_withDepth e find? n [] _)

end

/-- Sigils are replaced alike if those that are reached are. -/
theorem run_replacements_congr {sigils : List String} {known : List (String × String)}
    (h : ∀ before sigil after known' w', sigils = before ++ sigil :: after →
      (e.replacements find? again known before).run w = (.ok known', w') →
      known'.lookup sigil = none → (e.replacement find? again' sigil).run w' =
        (e.replacement find? again sigil).run w') :
    (e.replacements find? again' known sigils).run w =
      (e.replacements find? again known sigils).run w := by
  induction sigils generalizing known w with
  | nil => rfl
  | cons sigil sigils ih =>
    rw [replacements, replacements]
    by_cases hknown : (known.lookup sigil).isSome = true
    · rw [if_pos hknown, if_pos hknown]
      refine ih fun before sigil' after known' w' hsplit hrun hnew => ?_
      refine h (sigil :: before) sigil' after known' w' (congrArg _ hsplit) ?_ hnew
      rwa [replacements, if_pos hknown]
    · rw [if_neg hknown, if_neg hknown]
      have hfirst := h [] sigil sigils known w rfl rfl (Option.not_isSome_iff_eq_none.1 hknown)
      rcases hr : (e.replacement find? again sigil).run w with ⟨err | text, w₁⟩
      · rw [run_bind_of_error hr, run_bind_of_error (hfirst.trans hr)]
      · rw [run_bind_of_ok hr, run_bind_of_ok (hfirst.trans hr)]
        refine ih fun before sigil' after known' w' hsplit hrun hnew => ?_
        refine h (sigil :: before) sigil' after known' w' (congrArg _ hsplit) ?_ hnew
        rwa [replacements, if_neg hknown, run_bind_of_ok hr]

/-- A sigil is replaced alike if the text of its value is spliced alike. -/
theorem run_replacement_congr
    (h : ∀ inner w', (e.text find? none sigil).run w = (.ok inner, w') →
      (e.spliceText again' inner).run w' = (e.spliceText again inner).run w') :
    (e.replacement find? again' sigil).run w = (e.replacement find? again sigil).run w := by
  have htext : (e.text find? again' sigil).run w = (e.text find? again sigil).run w := by
    have hsecond : e.text find? again' sigil = _ := text_eq_bind sigil
    have hfirst : e.text find? again sigil = _ := text_eq_bind sigil
    rw [hsecond, hfirst]
    rcases ht : (e.text find? none sigil).run w with ⟨err | inner, w'⟩
    · rw [run_bind_of_error ht, run_bind_of_error ht]
    · rw [run_bind_of_ok ht, run_bind_of_ok ht]
      exact h inner w' ht
  unfold replacement
  rcases hr : (e.text find? again sigil).run w with ⟨err | text, w'⟩
  · rw [run_tryCatch_of_error hr, run_tryCatch_of_error (htext.trans hr)]
  · rw [run_tryCatch_of_ok hr, run_tryCatch_of_ok (htext.trans hr)]

/-- **Levels are spliced alike** if at each sigil that is reached the text of its value is. -/
theorem run_level_congr
    (h : ∀ sigil w₁ inner w₂, e.Reaches find? depth text w sigil w₁ →
      (e.text find? none sigil).run w₁ = (.ok inner, w₂) →
      (e.spliceText again' inner).run w₂ = (e.spliceText (e.inner? find? depth) inner).run w₂) :
    (e.level find? again' text).run w = (e.chunks find? depth text).run w := by
  have hreplacements : (e.replacements find? again' [] (e.delimiters.extract text).sigils).run w =
      (e.replacements find? (e.inner? find? depth) [] (e.delimiters.extract text).sigils).run w :=
    run_replacements_congr fun before sigil after known w₁ hsplit hrun hnew =>
      run_replacement_congr fun inner w₂ =>
        h sigil w₁ inner w₂ ⟨before, after, known, hsplit, hrun, hnew⟩
  rw [chunks_eq_level, level, level]
  rcases hr : (e.replacements find? (e.inner? find? depth) []
    (e.delimiters.extract text).sigils).run w
    with ⟨err | known, w'⟩
  · rw [run_bind_of_error hr, run_bind_of_error (hreplacements.trans hr)]
  · rw [run_bind_of_ok hr, run_bind_of_ok (hreplacements.trans hr)]

theorem spliceText_inner?_succ (depth : Nat) (text : String) :
    e.spliceText (e.inner? find? (depth + 1)) text =
      if e.delimiters.mayHoldSigil text then String.join <$> e.chunks find? depth text
        else pure text := rfl

/-- **A text from which nothing is extracted is spliced to itself**, also where it is looked into.
-/
theorem spliceText_of_plain (hplain : (e.delimiters.extract text).spans = []) (depth : Nat) :
    e.spliceText (e.inner? find? depth) text = pure text := by
  have hsigils : (e.delimiters.extract text).sigils = [] := by
    rw [Extraction.sigils, List.map_eq_nil_iff]
    exact Extraction.pieces_of_spans hplain
  cases depth with
  | zero => rfl
  | succ depth =>
    rw [spliceText_inner?_succ, chunks_eq_level, join_level_of_no_sigils hsigils, ite_self]

/-- What is written where no depth is left is all that a larger depth could splice. -/
theorem run_chunks_deeper
    (hlast : ∀ last, e.WritesLast find? depth text w last → (e.delimiters.extract last).spans = [])
    (more : Nat) :
    (e.chunks find? (more + depth) text).run w = (e.chunks find? depth text).run w := by
  rw [chunks_eq_level]
  induction depth generalizing text w with
  | zero =>
    refine run_level_congr fun sigil w₁ inner w₂ hreaches hinner => ?_
    rw [spliceText_of_plain (hlast inner (.here hreaches hinner))]
    rfl
  | succ depth ih =>
    refine run_level_congr fun sigil w₁ inner w₂ hreaches hinner => ?_
    rw [← Nat.add_assoc, spliceText_inner?_succ, spliceText_inner?_succ]
    split
    · next hm =>
      rw [run_map, run_map, chunks_eq_level,
        ih fun last h => hlast last (h.deeper hreaches hinner hm)]
    · rfl

/-- **A larger depth changes only what is written where no depth is left.** If no sigil is extracted
from the text of a value that splicing writes where no depth is left (`WritesLast`), then whatever
functions do with the state of the host, every larger depth gives the same text or error, and the
same context and host are left. So where a larger depth makes a difference, a sigil is extracted
from such a text. -/
theorem splice_deeper (e : Engine σ) (c : Context) (text : String) (s : σ) {depth : Nat}
    (hdepth : e.maxDepth ≤ depth) :
    ((∀ last, e.WritesLast c.get? e.maxDepth text ⟨c.cache, s⟩ last →
      (e.delimiters.extract last).spans = []) →
      ((e.withDepth depth).splice c text).run s = (e.splice c text).run s ∧
      ∀ {ω : Type} (sink : Sink ω) (out : ω),
        ((e.withDepth depth).spliceTo sink c text out).run s = (e.spliceTo sink c text out).run s) ∧
    (((e.withDepth depth).splice c text).run s ≠ (e.splice c text).run s →
      ∃ last, e.WritesLast c.get? e.maxDepth text ⟨c.cache, s⟩ last ∧
      (e.delimiters.extract last).spans ≠ []) := by
  obtain ⟨more, rfl⟩ := Nat.exists_eq_add_of_le' hdepth
  have hchunks (hlast : ∀ last, e.WritesLast c.get? e.maxDepth text ⟨c.cache, s⟩ last →
      (e.delimiters.extract last).spans = []) :
      ((e.withDepth (more + e.maxDepth)).chunks c.get? (more + e.maxDepth) text).run ⟨c.cache, s⟩ =
        (e.chunks c.get? e.maxDepth text).run ⟨c.cache, s⟩ := by
    rw [chunks_withDepth]
    exact run_chunks_deeper hlast more
  have hsplice (hlast : ∀ last, e.WritesLast c.get? e.maxDepth text ⟨c.cache, s⟩ last →
      (e.delimiters.extract last).spans = []) :
      ((e.withDepth (more + e.maxDepth)).splice c text).run s = (e.splice c text).run s := by
    refine splicing_eq ?_
    rw [run_map, run_map]
    exact congrArg (fun r => (r.1.map String.join, r.2)) (hchunks hlast)
  refine ⟨fun hlast => ⟨hsplice hlast, fun sink out => ?_⟩, fun hne => ?_⟩
  · have hrun := splicing_eq (hchunks hlast)
    rw [spliceTo, spliceTo, StateT.run_bind, StateT.run_bind]
    exact congrArg (· >>= _) hrun
  · by_contra hnone
    push Not at hnone
    exact hne (hsplice hnone)

/-- A value is written that seems to hold a sigil, but one with a single quote in it. -/
theorem splice_deeper_quote :
    let e := (Engine.new Host.echo).withDepth 0
    let c : Context := ⟨0, Table.empty.insert "X" (.str "['Y]"), [], ∅⟩
    e.delimiters.mayHoldSigil "['Y]" = true ∧
      (∀ last, e.WritesLast c.get? 0 "[X]" ⟨c.cache, ()⟩ last →
        (e.delimiters.extract last).spans = []) ∧
      ((e.withDepth 6).splice c "[X]").run () = (e.splice c "[X]").run () := by
  intro e c
  have hextract : e.delimiters.extract "[X]" = _ :=
    Delimiters.extract_square ['X'] rfl (by simp) rfl
  have hclose : Delimiters.square.close? 0 "'Y]".toList = some ("'Y]".toList, []) := by
    simp [Delimiters.close?, stripStart?, Delimiters.square]
  have hplain : (e.delimiters.extract "['Y]").spans = [] := by
    have hscan := Delimiters.scan_of_close?_of_not_balances hclose (by decide)
    rw [Delimiters.scan] at hscan
    exact congrArg Extraction.spans hscan
  have hlast : ∀ last, e.WritesLast c.get? 0 "[X]" ⟨c.cache, ()⟩ last →
      (e.delimiters.extract last).spans = [] := by
    rintro last ⟨_, _, sigil, w₁, w₂, henters, ⟨before, after, known, hsplit, hrun, -⟩, htext⟩
    cases henters
    rw [hextract] at hsplit
    obtain ⟨rfl, ⟨⟩⟩ : before = [] ∧ sigil :: after = ["[X]"] := by
      simpa using List.append_eq_singleton_iff.1 hsplit.symm
    cases hrun
    have hwritten : (e.text c.get? none "[X]").run ⟨c.cache, ()⟩ =
        (.ok "['Y]", ⟨Table.empty.insert "[X]" (.str "['Y]"), ()⟩) := by cbv
    cases htext.symm.trans hwritten
    exact hplain
  exact ⟨by decide, hlast, ((splice_deeper e c "[X]" () (by decide)).1 hlast).1⟩

end Engine
end Interpolation
