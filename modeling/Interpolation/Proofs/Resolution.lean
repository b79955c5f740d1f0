import Interpolation.Proofs.Run
import Interpolation.Proofs.Sigil.Correspondence
import Interpolation.Resolution

/-!
# Two sigils resolved side by side

A correspondence is sound for two scenes if corresponding names stand for the same, errors at
corresponding places are related, and the arguments that are given to correspond resolve alike. Then
corresponding sigils resolve alike: they do the same to the host and give the same, or errors that
are related (`Scene.evalSigil_matches`).
-/

namespace Interpolation

variable {σ α β : Type}

namespace Eval

/-- The same value or errors related by `R`, in the same state. -/
inductive SameResult (R : Error → Error → Prop) :
    Except Error α × σ → Except Error α × σ → Prop where
  | ok (a : α) (s : σ) : SameResult R (.ok a, s) (.ok a, s)
  | error {e e' : Error} (h : R e e') (s : σ) : SameResult R (.error e, s) (.error e', s)

/-- From every state the two computations give the same value or errors related by `R`, and leave
the same state. -/
structure Matches (R : Error → Error → Prop) (x y : Eval σ α) : Prop where
  run : ∀ s, SameResult R (x.run s) (y.run s)

namespace Matches

variable {R : Error → Error → Prop}

theorem ret (a : α) : Matches R (pure a : Eval σ α) (pure a) := ⟨fun s => .ok a s⟩

theorem fail {e e' : Error} (h : R e e') :
    Matches R (throw e : Eval σ α) (throw e') := ⟨fun s => .error h s⟩

theorem lift (x : StateM σ α) : Matches R (liftM x : Eval σ α) (liftM x) :=
  ⟨fun s => .ok _ (x.run s).2⟩

theorem bind {x y : Eval σ α} {f g : α → Eval σ β} (hx : Matches R x y)
    (hf : ∀ a, Matches R (f a) (g a)) :
    Matches R (x >>= f) (y >>= g) := by
  refine ⟨fun s => ?_⟩
  have h := hx.run s
  generalize hxs : x.run s = rx at h
  generalize hys : y.run s = ry at h
  cases h with
  | ok a t =>
    rw [run_bind_of_ok hxs, run_bind_of_ok hys]
    exact (hf a).run t
  | error he t =>
    rw [run_bind_of_error hxs, run_bind_of_error hys]
    exact .error he t

/-- Something is looked for alike, and it is found or not. -/
theorem bindOption {x y : Eval σ (Option α)} {f g : Option α → Eval σ β} (hx : Matches R x y)
    (hsome : ∀ a, Matches R (f (some a)) (g (some a))) (hnone : Matches R (f none) (g none)) :
    Matches R (x >>= f) (y >>= g) := by
  refine hx.bind fun found => ?_
  cases found with
  | some a => exact hsome a
  | none => exact hnone

theorem map {x y : Eval σ α} (hx : Matches R x y) (f : α → β) : Matches R (f <$> x) (f <$> y) := by
  rw [← bind_pure_comp, ← bind_pure_comp]
  exact hx.bind fun _ => ret _

/-- One computation whose errors are reported in two ways. -/
theorem adapt {f g : Error → Error} (h : ∀ e, R (f e) (g e)) (x : Eval σ α) :
    Matches R (ExceptT.adapt f x) (ExceptT.adapt g x) := by
  refine ⟨fun s => ?_⟩
  change SameResult R ((x.run s).1.mapError f, (x.run s).2) ((x.run s).1.mapError g, (x.run s).2)
  cases (x.run s).1 with
  | ok a => exact .ok a _
  | error e => exact .error (h e) _

/-- Computations that match, with the same errors, are the same. -/
theorem eq {x y : Eval σ α} (h : Matches Eq x y) : x = y := by
  refine funext fun s => ?_
  have hs := h.run s
  generalize hx : x.run s = rx at hs
  generalize hy : y.run s = ry at hs
  cases hs with
  | ok a t => exact hx.trans hy.symm
  | error he t => exact hx.trans ((congrArg (fun e => (Except.error e, t)) he).trans hy.symm)

/-- What matches a value is that value. -/
theorem eq_pure {x : Eval σ α} {a : α} (h : Matches R x (pure a)) : x = pure a :=
  funext fun s => by
    have hs := h.run s
    generalize hx : x.run s = rx at hs
    cases hs
    exact hx

end Matches
end Eval

open Eval (Matches)

namespace Correspondence

variable {R : Error → Error → Prop} {a b : Scene σ}

/-- What corresponds by `k` stands for the same in two scenes, and is reported alike. -/
structure Sound (k : Correspondence) (R : Error → Error → Prop) (a b : Scene σ) : Prop where
  host : b.host = a.host
  find : ∀ {n n'}, k.name n n' → b.find? n'.text = a.find? n.text
  fault : ∀ fault {p p'}, k.place p p' →
    R ((Error.of fault).locate a.source p) ((Error.of fault).locate b.source p')
  call : ∀ name err {p p'}, k.place p p' →
    R ((Error.ofCall name err).locate a.source p) ((Error.ofCall name err).locate b.source p')
  argument : ∀ {x x'}, k.argument x x' → Matches R (a.evalArgument x) (b.evalArgument x')

end Correspondence

namespace Scene

variable {k : Correspondence} {R : Error → Error → Prop} {a b : Scene σ}

theorem manager?_matches (hk : k.Sound R a b) (value : Value) :
    Matches R (liftM (value.manager? a.host) : Eval σ _) (liftM (value.manager? b.host)) := by
  rw [hk.host]
  exact .lift _

section
variable (hk : k.Sound R a b) {p p' : Span} (hp : k.place p p')
include hk hp

theorem fail_matches (fault : Fault) : Matches R (a.fail fault p : Eval σ α) (b.fail fault p') :=
  .fail (hk.fault fault hp)

/-- A fault that shows a key, whose text the host is asked for first. -/
theorem fail_describing_matches (key : Value) (fault : String → Fault) :
    Matches R (do a.fail (fault (← key.describe a.host)) p : Eval σ α)
      (do b.fail (fault (← key.describe a.host)) p') :=
  .bind (.lift _) fun _ => fail_matches hk hp _

theorem calling_matches (name : String) (action : Eval σ α) :
    Matches R (a.calling name p action) (b.calling name p' action) :=
  .adapt (fun err => hk.call name err hp) action

theorem call_matches (name : String) (f : FunctionRef) (args : List Value) :
    Matches R (a.call name f args p) (b.call name f args p') := by
  unfold call
  rw [hk.host]
  exact calling_matches hk hp ..

theorem item_matches (value key : Value) :
    Matches R (a.item value key p) (b.item value key p') := by
  unfold item
  rw [hk.host]
  exact .bindOption (.lift _) (fun found => .ret found) (fail_describing_matches hk hp ..)

theorem record_matches (name : String) (manager : Manager σ) (key : Value) :
    Matches R (a.record name manager key p) (b.record name manager key p') := by
  unfold record
  rw [hk.host]
  refine .bindOption (calling_matches hk hp ..) (fun found => .ret found) ?_
  exact .bindOption (calling_matches hk hp ..) (fun found => .ret found)
    (fail_describing_matches hk hp ..)

theorem recordBy_matches (name : String) (manager : Manager σ) (field : String) (key : Value) :
    Matches R (a.recordBy name manager field key p) (b.recordBy name manager field key p') := by
  unfold recordBy
  rw [hk.host]
  exact .bindOption (calling_matches hk hp ..) (fun found => .ret found)
    (fail_describing_matches hk hp ..)

theorem root_matches (name : String) (value : Value) (arg : Option Value) :
    Matches R (a.root name value arg p) (b.root name value arg p') := by
  unfold root
  split
  · exact call_matches hk hp ..
  · exact item_matches hk hp ..
  · exact .ret _

end

section
variable (hk : k.Sound R a b) {n n' : Name} (hn : k.name n n')
include hk hn

theorem lookup_matches : Matches R (a.lookup n) (b.lookup n') := by
  unfold lookup
  rw [hk.find hn, k.text_eq hn]
  split
  · exact .ret _
  · exact fail_matches hk (k.span hn) _

theorem evalName_matches : Matches R (a.evalName n) (b.evalName n') := by
  unfold evalName
  rw [k.text_eq hn]
  exact .bind (lookup_matches hk hn) fun value =>
    .bindOption (manager?_matches hk value) (fun _ => .ret value) (root_matches hk (k.span hn) ..)

theorem select_matches (current : Value) (arg : Option Value) {p p' : Span} (hp : k.place p p') :
    Matches R (a.select current n arg p) (b.select current n' arg p') := by
  unfold select member?
  rw [hk.host, hk.find hn, k.text_eq hn]
  refine .bind (.bindOption (.lift _) (fun found => .ret _) (.lift _)) fun found => ?_
  split
  · exact .ret _
  · split
    · exact item_matches hk hp ..
    · exact .ret _
  · split
    · exact call_matches hk hp ..
    · exact fail_matches hk (k.span hn) _

theorem member_matches (current : Value) (arg : Option Value) {p p' : Span} (hp : k.place p p') :
    Matches R (a.member current n arg p) (b.member current n' arg p') := by
  unfold member
  rw [k.text_eq hn]
  refine .bind (select_matches hk hn current arg hp) fun value => ?_
  split
  · exact call_matches hk hp ..
  · exact .ret _

end

mutual

/-- **Corresponding sigils resolve alike**, if the correspondence is `Sound`. -/
theorem evalSigil_matches (hk : k.Sound R a b) {s s' : Sigil} (h : k.Sigils s s') :
    Matches R (a.evalSigil s) (b.evalSigil s') := by
  match h with
  | .mk (.mk hname harg hspan) hmembers =>
    rw [evalSigil, evalSigil, k.text_eq hname]
    refine .bind (evalOption_matches hk harg) fun arg =>
      .bind (lookup_matches hk hname) fun value => ?_
    refine .bind (manager?_matches hk value) fun found => ?_
    cases found with
    | none =>
      exact .bind (root_matches hk hspan ..) fun value => evalMembers_matches hk value hmembers
    | some manager =>
      cases arg with
      | some key =>
        exact .bind (record_matches hk hspan ..) fun value => evalMembers_matches hk value hmembers
      | none =>
        -- without an argument of its own, the model is asked for the record that the next node
        -- names, if that has one
        match hmembers with
        | .nil => exact evalMembers_matches hk value .nil
        | .cons (.mk hname' .none hspan') hrest =>
          exact evalMembers_matches hk value (.cons (.mk hname' .none hspan') hrest)
        | .cons (.mk hname' (.some ha) hspan') hrest =>
          dsimp only
          rw [k.text_eq hname']
          exact .bind (evalArgument_matches hk ha) fun key =>
            .bind (recordBy_matches hk (k.join hspan hspan') ..) fun value =>
              evalMembers_matches hk value hrest

theorem evalMembers_matches (hk : k.Sound R a b) (current : Value) {nodes nodes' : List Node}
    (h : k.Members nodes nodes') :
    Matches R (a.evalMembers current nodes) (b.evalMembers current nodes') := by
  match h with
  | .nil => exact .ret _
  | .cons (.mk hname harg hspan) hrest =>
    rw [evalMembers, evalMembers]
    exact .bind (evalOption_matches hk harg) fun arg =>
      .bind (member_matches hk hname current arg hspan) fun value =>
        evalMembers_matches hk value hrest

theorem evalOption_matches (hk : k.Sound R a b) {x x' : Option Argument} (h : k.Options x x') :
    Matches R (a.evalOption x) (b.evalOption x') := by
  match h with
  | .none => exact .ret _
  | .some h => exact (evalArgument_matches hk h).map _

theorem evalArgument_matches (hk : k.Sound R a b) {x x' : Argument} (h : k.Arguments x x') :
    Matches R (a.evalArgument x) (b.evalArgument x') := by
  match h with
  | .given h => exact hk.argument h
  | .sigil h => exact evalSigil_matches hk h
  | .variable h => exact evalName_matches hk h
  | .literal => exact .ret _

end

end Scene
end Interpolation
