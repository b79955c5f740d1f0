import Interpolation.Proofs.Extraction.Pieces
import Interpolation.Proofs.Splice.Asks
import Mathlib

/-!
# What the policy for misses decides

A policy is asked for the first time when a sigil misses. Up to then splicing does the same whatever
the policy is, and a policy that refuses the text ends there. So a text that is not refused for a
miss is spliced alike by all policies, or refused alike (`Engine.splice_eq_of_raise`).

The proof compares two runs. `Splice.Follows` says that the second does what the first does, unless
the first fails with a miss; it holds of the steps and is kept when they are put together, and at
the place where the two policies differ the first run fails with a miss.
-/

namespace Interpolation

variable {σ α β : Type}

/-- Wherever `x` does not fail with a miss, `y` does the same. -/
def Splice.Follows (x y : Splice σ α) : Prop :=
  ∀ w, (∃ err, (x.run w).1 = .error err ∧ err.isMiss = true) ∨ y.run w = x.run w

namespace Splice.Follows

variable {x y : Splice σ α}

theorem refl (x : Splice σ α) : Follows x x := fun _ => .inr rfl

theorem bind {f g : α → Splice σ β} (hx : Follows x y) (hf : ∀ a, Follows (f a) (g a)) :
    Follows (x >>= f) (y >>= g) := by
  intro w
  rcases hr : x.run w with ⟨err | a, w'⟩
  · rw [run_bind_of_error hr]
    rcases hx w with ⟨err', herr, hmiss⟩ | heq
    · rw [hr] at herr
      cases herr
      exact .inl ⟨err, rfl, hmiss⟩
    · exact .inr (run_bind_of_error (heq.trans hr))
  · rcases hx w with ⟨err', herr, -⟩ | heq
    · rw [hr] at herr
      cases herr
    · rw [run_bind_of_ok hr, run_bind_of_ok (heq.trans hr)]
      exact hf a w'

theorem map (hx : Follows x y) (f : α → β) : Follows (f <$> x) (f <$> y) := by
  rw [← bind_pure_comp, ← bind_pure_comp]
  exact hx.bind fun _ => .refl _

end Splice.Follows

open Splice (Follows)

namespace Engine

/-- The engine with `policy` in place of its own. -/
def withPolicy (e : Engine σ) (policy : MissPolicy) : Engine σ := { e with onMiss := policy }

/-- What is spliced in turn, by two computations. -/
inductive AgainFollows : (again again' : Option (String → Splice σ (List String))) → Prop where
  | none : AgainFollows none none
  | some {x y : String → Splice σ (List String)} (h : ∀ text, Follows (x text) (y text)) :
    AgainFollows (some x) (some y)

variable {e : Engine σ} {find? : String → Option Value}
    {again again' : Option (String → Splice σ (List String))}

section
variable (h : AgainFollows again again') (policy : MissPolicy)
include h

/-- The value of a sigil and its text do not depend on the policy, but what is spliced in turn may.
-/
theorem text_follows (sigil : String) :
    Follows ((e.withPolicy .raise).text find? again sigil)
      ((e.withPolicy policy).text find? again' sigil) := by
  have hraise : (e.withPolicy .raise).text find? again sigil = _ := text_eq_bind sigil
  have hpolicy : (e.withPolicy policy).text find? again' sigil = _ := text_eq_bind sigil
  rw [hraise, hpolicy]
  refine .bind (.refl _) fun text => ?_
  cases h with
  | none => exact .refl _
  | @some x y h =>
    change Follows (if e.delimiters.mayHoldSigil text then String.join <$> x text else pure text)
      (if e.delimiters.mayHoldSigil text then String.join <$> y text else pure text)
    split
    · exact (h text).map _
    · exact .refl _

/-- **The policies differ where the first run fails with a miss.** -/
theorem replacement_follows (sigil : String) :
    Follows ((e.withPolicy .raise).replacement find? again sigil)
    ((e.withPolicy policy).replacement find? again' sigil) := by
  intro w
  unfold replacement
  rcases hr : ((e.withPolicy .raise).text find? again sigil).run w with ⟨err | text, w'⟩
  · rw [run_tryCatch_of_error hr]
    by_cases hmiss : err.isMiss = true
    · rw [if_pos hmiss]
      exact .inl ⟨err, rfl, hmiss⟩
    · rw [if_neg hmiss]
      rcases text_follows h policy sigil w with ⟨err', herr, hmiss'⟩ | heq
      · rw [hr] at herr
        cases herr
        exact absurd hmiss' hmiss
      · rw [run_tryCatch_of_error (heq.trans hr), if_neg hmiss]
        exact .inr rfl
  · rw [run_tryCatch_of_ok hr]
    rcases text_follows h policy sigil w with ⟨err', herr, -⟩ | heq
    · rw [hr] at herr
      cases herr
    · exact .inr (run_tryCatch_of_ok (heq.trans hr))

theorem replacements_follows (sigils : List String) (known : List (String × String)) :
    Follows ((e.withPolicy .raise).replacements find? again known sigils)
      ((e.withPolicy policy).replacements find? again' known sigils) := by
  induction sigils generalizing known with
  | nil => exact .refl _
  | cons sigil sigils ih =>
    rw [replacements, replacements]
    split
    · exact ih known
    · exact .bind (replacement_follows h policy sigil) fun text => ih _

theorem level_follows (text : String) :
    Follows ((e.withPolicy .raise).level find? again text)
      ((e.withPolicy policy).level find? again' text) :=
  .bind (replacements_follows h policy _ _) fun _ => .refl _

end

/-- **At every level splicing `Follows` the policy that refuses the text.** -/
theorem chunks_follows (policy : MissPolicy) (depth : Nat) (text : String) :
    Follows ((e.withPolicy .raise).chunks find? depth text)
      ((e.withPolicy policy).chunks find? depth text) := by
  induction depth generalizing text with
  | zero => exact level_follows .none policy text
  | succ depth ih => exact level_follows (.some ih) policy text

/-- What runs of splicing do is what a context keeps of them. -/
theorem splicing_eq {x y : Splice σ α} {c : Context} {s : σ}
    (h : y.run ⟨c.cache, s⟩ = x.run ⟨c.cache, s⟩) :
    (c.splicing y).run s = (c.splicing x).run s := by
  rw [Context.run_splicing, Context.run_splicing, h]

/-- **The policy decides misses alone.** Whatever functions do with the state of the host, if a text
can be spliced by the policy that refuses misses, every other policy gives the same text and leaves
the same context and host, and if it is refused for anything but a miss, so it is by every other
policy. Where another policy makes a difference the text is refused for a miss. The same goes for
splicing into a sink. -/
theorem splice_eq_of_raise (e : Engine σ) (policy : MissPolicy) (c : Context) (text : String)
    (s : σ) :
    (∀ out, (((e.withPolicy .raise).splice c text).run s).1.1 = .ok out →
      ((e.withPolicy policy).splice c text).run s = ((e.withPolicy .raise).splice c text).run s) ∧
    (∀ err, (((e.withPolicy .raise).splice c text).run s).1.1 = .error err → err.isMiss = false →
      ((e.withPolicy policy).splice c text).run s = ((e.withPolicy .raise).splice c text).run s) ∧
    (((e.withPolicy policy).splice c text).run s ≠ ((e.withPolicy .raise).splice c text).run s →
      ∃ err, (((e.withPolicy .raise).splice c text).run s).1.1 = .error err ∧ err.isMiss = true) ∧
    ∀ {ω : Type} (sink : Sink ω) (out : ω),
      ((e.withPolicy policy).spliceTo sink c text out).run s =
        ((e.withPolicy .raise).spliceTo sink c text out).run s ∨
      ∃ err, (((e.withPolicy .raise).spliceTo sink c text out).run s).1.1 = .error err ∧
      err.isMiss = true := by
  have hchunks := @chunks_follows σ e c.get? policy e.maxDepth text ⟨c.cache, s⟩
  have hsplice : ((e.withPolicy policy).splice c text).run s =
      ((e.withPolicy .raise).splice c text).run s ∨
      ∃ err, (((e.withPolicy .raise).splice c text).run s).1.1 = .error err ∧
      err.isMiss = true := by
    rcases hchunks with ⟨err, herr, hmiss⟩ | heq
    · refine .inr ⟨err, ?_, hmiss⟩
      rw [splice, Context.run_splicing, run_map]
      exact congrArg (Except.map String.join) herr
    · refine .inl (splicing_eq ?_)
      rw [run_map, run_map]
      exact congrArg (fun r => (r.1.map String.join, r.2)) heq
  refine ⟨fun out hout => ?_, fun err herr hmiss => ?_, fun hne => hsplice.resolve_left hne,
    fun sink out => ?_⟩
  · rcases hsplice with heq | ⟨err, herr, -⟩
    · exact heq
    · cases hout.symm.trans herr
  · rcases hsplice with heq | ⟨err', herr', hmiss'⟩
    · exact heq
    · cases herr.symm.trans herr'
      cases hmiss.symm.trans hmiss'
  · rcases hchunks with ⟨err, herr, hmiss⟩ | heq
    · refine .inr ⟨err, ?_, hmiss⟩
      rw [result_spliceTo]
      exact congrArg (Except.bind · _) herr
    · have hrun : (c.splicing ((e.withPolicy policy).chunks c.get?
          (e.withPolicy policy).maxDepth text)).run s =
          (c.splicing ((e.withPolicy .raise).chunks c.get?
            (e.withPolicy .raise).maxDepth text)).run s :=
        splicing_eq heq
      refine .inl ?_
      rw [spliceTo, spliceTo, StateT.run_bind, StateT.run_bind, hrun]

/-- A context in which one name is bound. -/
def bound : Context := ⟨0, Table.empty.insert "Y" (.int 1), [], ∅⟩

/-- A text with a name that is bound, spliced by an engine that drops what cannot be resolved. -/
theorem splice_eq_of_raise_bound :
    ((((Engine.new Host.echo).withPolicy .raise).splice bound "[Y]").run ()).1.1 = .ok "1" ∧
      (((Engine.new Host.echo).withPolicy .drop).splice bound "[Y]").run () =
        (((Engine.new Host.echo).withPolicy .raise).splice bound "[Y]").run () := by
  have hraise :
      ((((Engine.new Host.echo).withPolicy .raise).splice bound "[Y]").run ()).1.1 = .ok "1" := by
    have hextract : ((Engine.new Host.echo).withPolicy .raise).delimiters.extract "[Y]" = _ :=
      Delimiters.extract_square ['Y'] rfl (by simp) rfl
    have hvalue : (((Engine.new Host.echo).withPolicy .raise).value bound.get? "[Y]").run ⟨∅, ()⟩ =
        (.ok (.int 1), ⟨Table.empty.insert "[Y]" (.int 1), ()⟩) := by cbv
    have hformat : (((Engine.new Host.echo).withPolicy .raise).format (.int 1)).run () =
        (.ok "1", ()) := by cbv
    rw [run_splice_of_value hextract hvalue rfl hformat (by cbv)]
  exact ⟨hraise, (splice_eq_of_raise (.new .echo) .drop bound "[Y]" ()).1 _ hraise⟩

end Engine
end Interpolation
