import Interpolation.Proofs.Extraction.Restoration
import Interpolation.Proofs.Failure
import Interpolation.Proofs.Splice.Policy

/-!
# Splicing where nothing is bound

A sigil begins with a name, and what is looked at before that name is its argument, which is a
literal, a name or a sigil again. So without names no sigil of the grammar has a value, and
resolving one comes to a key that is not there before anything is called (`Scene.evalSigil_lost`).
The policy for misses decides on every sigil of a text then, and splicing the text is hiding its
sigils (`Engine.splice_vacant`).
-/

namespace Interpolation

open Text

variable {σ α β : Type}

/-- Nothing comes of it but the error that a key is not there (`keyNotFound`). -/
inductive Eval.Lost : Eval σ α → Prop where
  | mk {err : Error} (h : err.kind = .keyNotFound) : Lost (throw err)

theorem Eval.Lost.bind {x : Eval σ α} (h : Lost x) (f : α → Eval σ β) : Lost (x >>= f) := by
  obtain ⟨herr⟩ := h
  exact .mk herr

open Eval (Lost)

namespace Scene

variable {scene : Scene σ}

theorem lookup_lost (hnone : ∀ name, scene.find? name = none) (name : Name) :
    Lost (scene.lookup name) := by
  rw [lookup, hnone]
  refine .mk ?_
  rw [Error.kind_locate]
  rfl

mutual

/-- **Without names a sigil comes to a key that is not there.** The argument of its root is looked
at before, but that is a literal or comes to such a key itself. -/
theorem evalSigil_lost (hnone : ∀ name, scene.find? name = none) (s : Sigil) :
    Lost (scene.evalSigil s) := by
  match s with
  | .mk (.mk name argument _) _ _ =>
    rw [evalSigil]
    obtain ⟨v, hv⟩ | hlost := evalOption_lost hnone argument
    · rw [hv, pure_bind]
      exact (lookup_lost hnone name).bind _
    · exact hlost.bind _

theorem evalOption_lost (hnone : ∀ name, scene.find? name = none) (argument : Option Argument) :
    (∃ v, scene.evalOption argument = pure v) ∨ Lost (scene.evalOption argument) := by
  match argument with
  | none => exact .inl ⟨none, rfl⟩
  | some argument =>
    rw [evalOption, ← bind_pure_comp]
    obtain ⟨v, hv⟩ | hlost := evalArgument_lost hnone argument
    · exact .inl ⟨some v, by rw [hv, pure_bind]⟩
    · exact .inr (hlost.bind _)

theorem evalArgument_lost (hnone : ∀ name, scene.find? name = none) (argument : Argument) :
    (∃ v, scene.evalArgument argument = pure v) ∨ Lost (scene.evalArgument argument) := by
  match argument with
  | .sigil s => exact .inr (evalSigil_lost hnone s)
  | .variable name => exact .inr ((lookup_lost hnone name).bind _)
  | .literal literal _ => exact .inl ⟨literal.value, rfl⟩

end

end Scene

/-- Nothing is bound in a layer of the context, and it keeps no values of sigils. -/
structure Context.Vacant (c : Context) : Prop where
  layers : ∀ layer ∈ c.layers, layer = ∅
  cache : c.cache = ∅

theorem Context.Vacant.get? {c : Context} (h : c.Vacant) (key : String) : c.get? key = none := by
  have hfind (key : String) : c.find? key = none :=
    List.findSome?_eq_none_iff.2 fun layer hlayer => h.layers layer hlayer ▸ Table.get?_empty key
  rw [Context.get?, hfind, hfind]
  rfl

namespace Engine

variable {e : Engine σ} {find? : String → Option Value}
    {again : Option (String → Splice σ (List String))}
  {sigil text : String} {w : Work σ}

/-- Sigils whose replacements do nothing to the work are all replaced by them. -/
theorem run_replacements_of_idle {replace : String → String} {sigils : List String}
    (h : ∀ sigil ∈ sigils, (e.replacement find? again sigil).run w = (.ok (replace sigil), w))
    {known : List (String × String)}
    (hknown : ∀ sigil text, known.lookup sigil = some text → text = replace sigil) :
    ∃ known', (e.replacements find? again known sigils).run w = (.ok known', w) ∧
      ∀ sigil text, known'.lookup sigil = some text → text = replace sigil := by
  induction sigils generalizing known with
  | nil => exact ⟨known, rfl, hknown⟩
  | cons sigil sigils ih =>
    obtain ⟨hfirst, hrest⟩ := List.forall_mem_cons.1 h
    rw [replacements]
    split
    · exact ih hrest hknown
    · rw [run_bind_of_ok hfirst]
      refine ih hrest fun sigil' text htext => ?_
      rw [List.lookup_cons] at htext
      split at htext
      · next heq =>
        cases htext
        rw [eq_of_beq heq]
      · exact hknown sigil' text htext

/-- A text with such sigils is spliced to the text with the replacements in their place, and the
context stays. -/
theorem run_splice_of_idle {c : Context} {s : σ} {replace : String → String}
    (h : ∀ sigil ∈ (e.delimiters.extract text).sigils,
      (e.replacement c.get? (e.inner? c.get? e.maxDepth) sigil).run ⟨c.cache, s⟩ =
        (.ok (replace sigil), ⟨c.cache, s⟩)) :
    (e.splice c text).run s =
      ((.ok (String.join ((e.delimiters.extract text).fill replace)), c), s) := by
  obtain ⟨known, hrun, hknown⟩ :
      ∃ known, (e.replacements _ _ [] _).run ⟨c.cache, s⟩ = (.ok known, _) ∧ _ :=
    run_replacements_of_idle h nofun
  have hfill := Extraction.fill_congr fun sigil hmem => by
    obtain ⟨t, ht, -⟩ := known_of_replacements hrun (.inr hmem)
    exact (congrArg (Option.getD · sigil) ht).trans (hknown sigil t ht)
  rw [splice, Context.run_splicing, run_map, chunks_eq_level, level, run_bind_of_ok hrun, hfill]
  rfl

/-- A sigil that comes to a key that is not there is replaced by the answer of the policy. -/
theorem run_replacement_of_lost (hlost : Lost (e.resolve find? sigil)) (hcache : w.cache = ∅) :
    ∃ err, err.kind = .keyNotFound ∧
      (e.replacement find? again sigil).run w = (e.onMiss.answer sigil err).run w := by
  generalize hx : e.resolve find? sigil = x at hlost
  obtain @⟨err, herr⟩ := hlost
  have hkept : e.kept? sigil w.cache = none := by
    rw [kept?, hcache, Table.get?_empty, ite_self]
  have hvalue : (e.value find? sigil).run w = (.error err, w) :=
    run_value_of_error hkept (by rw [hx]; rfl)
  have htext : (e.text find? again sigil).run w = (.error err, w) := run_bind_of_error hvalue
  refine ⟨err, herr, ?_⟩
  rw [replacement, run_tryCatch_of_error htext, if_pos]
  rw [Error.isMiss, herr]

section
variable {c : Context} (hc : c.Vacant)
  (hparse : ∀ sigil ∈ (e.delimiters.extract text).sigils, ∃ s, e.delimiters.parse sigil = .ok s)
  (s : σ)
include hc hparse

theorem run_replacement_of_vacant (again : Option (String → Splice σ (List String)))
    (hsigil : sigil ∈ (e.delimiters.extract text).sigils) :
    ∃ err, err.kind = .keyNotFound ∧
      (e.replacement c.get? again sigil).run ⟨c.cache, s⟩ =
        (e.onMiss.answer sigil err).run ⟨c.cache, s⟩ := by
  refine run_replacement_of_lost ?_ hc.cache
  obtain ⟨tree, htree⟩ := hparse sigil hsigil
  rw [resolve, htree]
  exact Scene.evalSigil_lost hc.get? tree

/-- A policy that has a text for every sigil puts it there. -/
theorem run_splice_of_answer {replace : String → String}
    (hanswer : ∀ sigil miss,
      (e.onMiss.answer sigil miss : Splice σ String) = pure (replace sigil)) :
    (e.splice c text).run s =
      ((.ok (String.join ((e.delimiters.extract text).fill replace)), c), s) := by
  refine run_splice_of_idle fun sigil hsigil => ?_
  obtain ⟨err, -, hrun⟩ := run_replacement_of_vacant hc hparse s (e.inner? c.get? e.maxDepth) hsigil
  rw [hrun, hanswer]
  rfl

/-- The policy that has none refuses the text for its first sigil. -/
theorem run_splice_of_raise (hpolicy : e.onMiss = .raise)
    (hne : (e.delimiters.extract text).sigils ≠ []) :
    ∃ err, err.kind = .keyNotFound ∧ (e.splice c text).run s = ((.error err, c), s) := by
  obtain ⟨sigil, sigils, hsigils⟩ := List.exists_cons_of_ne_nil hne
  have hfirst : sigil ∈ (e.delimiters.extract text).sigils := hsigils ▸ List.mem_cons_self
  obtain ⟨err, herr, hrun⟩ := run_replacement_of_vacant hc hparse s
    (e.inner? c.get? e.maxDepth) hfirst
  rw [hpolicy] at hrun
  refine ⟨err, herr, ?_⟩
  have hreplacements : (e.replacements c.get? (e.inner? c.get? e.maxDepth) []
      (sigil :: sigils)).run ⟨c.cache, s⟩ =
      (.error err, ⟨c.cache, s⟩) := run_bind_of_error hrun
  rw [splice, Context.run_splicing, run_map, chunks_eq_level, level, hsigils,
    run_bind_of_error hreplacements]
  rfl

end

/-- **Splicing where nothing is bound is hiding the sigils.** Take a text whose sigils are all in
the grammar, and a context in which nothing is bound and nothing is kept (`Context.Vacant`).
Whatever the host does, however deep values are spliced and whether they are kept or not, a policy
with a text puts that in place of every sigil, the one that drops sigils puts nothing there, the one
that keeps them gives the text back, and the one that refuses misses refuses the text for a key that
is not there, if there is a sigil in it. The context stays as it is, so nothing is kept afterwards
either. -/
theorem splice_vacant (e : Engine σ) {c : Context} (hc : c.Vacant) {text : String}
    (hparse : ∀ sigil ∈ (e.delimiters.extract text).sigils, ∃ s, e.delimiters.parse sigil = .ok s)
    (s : σ) :
    (∀ p, ((e.withPolicy (.text p)).splice c text).run s =
      ((.ok (e.delimiters.hide p text).1, c), s)) ∧
    ((e.withPolicy .drop).splice c text).run s = ((.ok (e.delimiters.hide "" text).1, c), s) ∧
    ((e.withPolicy .keep).splice c text).run s = ((.ok text, c), s) ∧
    ((e.delimiters.extract text).sigils ≠ [] → ∃ err, err.kind = .keyNotFound ∧
      ((e.withPolicy .raise).splice c text).run s = ((.error err, c), s)) ∧
    ((e.delimiters.extract text).sigils = [] →
      ((e.withPolicy .raise).splice c text).run s = ((.ok text, c), s)) := by
  refine ⟨fun p => ?_, ?_, ?_, fun hne => ?_, fun hnil => ?_⟩
  · exact run_splice_of_answer (e := e.withPolicy (.text p)) hc hparse s fun _ _ => rfl
  · exact run_splice_of_answer (e := e.withPolicy .drop) hc hparse s fun _ _ => rfl
  · have hkeep : ((e.withPolicy .keep).splice c text).run s =
        ((.ok (String.join ((e.delimiters.extract text).fill fun sigil => sigil)), c), s) :=
      run_splice_of_answer (e := e.withPolicy .keep) hc hparse s fun _ _ => rfl
    rwa [Delimiters.join_fill_self] at hkeep
  · exact run_splice_of_raise (e := e.withPolicy .raise) hc hparse s rfl hne
  · exact run_splice_of_no_sigils (e := e.withPolicy .raise) hnil s

/-- A sigil whose argument is a sigil in turn, in a context with a layer above its base. -/
theorem splice_vacant_nested :
    let e := Engine.new Host.echo
    let c : Context := ⟨0, ∅, [∅], ∅⟩
    c.Vacant ∧ (e.delimiters.extract "a[A=[B]]").sigils = ["[A=[B]]"] ∧
      ((e.withPolicy (.text "?")).splice c "a[A=[B]]").run () = ((.ok "a?", c), ()) ∧
      ∃ err, err.kind = .keyNotFound ∧
      ((e.withPolicy .raise).splice c "a[A=[B]]").run () = ((.error err, c), ()) := by
  intro e c
  have hc : c.Vacant := ⟨by simp [c, Context.layers], rfl⟩
  have hclose : Delimiters.square.close? 0 "A=[B]]".toList = some ("A=[B]]".toList, []) := by
    simp [Delimiters.close?, stripStart?, Delimiters.square]
  have hscan := (Delimiters.isSigil_of_close? hclose (by decide)).scan
  have hextract : e.delimiters.extract "a[A=[B]]" = ⟨[⟨['a'], "[A=[B]]".toList⟩], []⟩ :=
    (Delimiters.scan_of_none rfl).trans (congrArg (Extraction.prepend ['a']) hscan)
  have htree : e.delimiters.parse "[A=[B]]" = .ok (.mk (.mk ⟨"A", ⟨1, 2⟩⟩
      (some (.sigil (.mk (.bare ⟨"B", ⟨4, 5⟩⟩) [] ⟨3, 6⟩))) ⟨1, 6⟩) [] ⟨0, 7⟩) := by cbv
  have hparse : ∀ sigil ∈ (e.delimiters.extract "a[A=[B]]").sigils,
      ∃ s, e.delimiters.parse sigil = .ok s := by
    rw [hextract]
    exact List.forall_mem_singleton.2 ⟨_, htree⟩
  obtain ⟨htext, -, -, hraise, -⟩ := splice_vacant e hc hparse ()
  refine ⟨hc, by rw [hextract]; rfl, ?_, hraise (by rw [hextract]; simp [Extraction.sigils])⟩
  rw [htext "?", Delimiters.hide, hextract]
  rfl

end Engine
end Interpolation
