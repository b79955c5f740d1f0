import Interpolation.Proofs.Run
import Interpolation.Splice

/-!
# Pure hosts

A computation of the host is pure if it neither reads nor changes the state of the host, so that it
has one result. The functions, objects and managers of a host may all be pure (`Host.Pure`) and
resolving may still not be: each access to `SYS.ENV` makes a view of the environment, which is
another instance each time. Over a pure host a sigil is pure that does not tell these views apart
(`Engine.resolve_pure`), as it does not where it reaches none.
-/

namespace Interpolation

variable {σ α β : Type}

namespace Eval

/-- A computation with a result that is there already. -/
def ofExcept (r : Except Error α) : Eval σ α := ExceptT.mk (pure r)

/-- The computation neither reads nor changes the state of the host. -/
def Pure (x : Eval σ α) : Prop := ∃ r, x = ofExcept r

theorem Pure.of (r : Except Error α) : Pure (ofExcept r : Eval σ α) := ⟨r, rfl⟩

theorem Pure.ret (a : α) : Pure (pure a : Eval σ α) := ⟨.ok a, rfl⟩

theorem Pure.fail (e : Error) : Pure (throw e : Eval σ α) := ⟨.error e, rfl⟩

/-- A pure computation that gives a value once always does. -/
theorem Pure.eq_of_run {x : Eval σ α} (hx : Pure x) {a : α} {t : σ} (h : (x.run t).1 = .ok a) :
    x = pure a := by
  obtain ⟨r, rfl⟩ := hx
  cases (show r = .ok a from h)
  rfl

theorem Pure.bind {x : Eval σ α} {f : α → Eval σ β} (hx : Pure x) (hf : ∀ a, Pure (f a)) :
    Pure (x >>= f) := by
  obtain ⟨r, rfl⟩ := hx
  cases r with
  | ok a => exact hf a
  | error e => exact ⟨.error e, rfl⟩

/-- What follows on a result that is there already. -/
theorem Pure.bindExcept {f : α → Eval σ β} (r : Except Error α) (hf : ∀ a, Pure (f a)) :
    Pure (liftM r >>= f) := .bind (.of r) hf

theorem Pure.map {x : Eval σ α} (hx : Pure x) (f : α → β) : Pure (f <$> x) := by
  obtain ⟨r, rfl⟩ := hx
  cases r with
  | ok a => exact ⟨.ok (f a), rfl⟩
  | error e => exact ⟨.error e, rfl⟩

theorem Pure.adapt {x : Eval σ α} (hx : Pure x) (f : Error → Error) : Pure (ExceptT.adapt f x) := by
  obtain ⟨r, rfl⟩ := hx
  exact ⟨r.mapError f, rfl⟩

/-- A look at the state that always finds the same. -/
theorem Pure.lift {x : StateM σ α} (hx : ∃ a, x = pure a) : Pure (liftM x : Eval σ α) := by
  obtain ⟨a, rfl⟩ := hx
  exact ⟨.ok a, rfl⟩

end Eval

open Eval

/-- What a manager finds depends on what it is asked for alone. -/
structure Manager.Pure (manager : Manager σ) : Prop where
  get : ∀ field key, Eval.Pure (manager.get field key)
  getByNaturalKey : ∀ key, Eval.Pure (manager.getByNaturalKey key)

/-- Functions, objects and managers of the host are pure, the running process among them: what they
answer depends on what they are asked alone. Nothing is said of `Host.newEnvironment`, which gives
another view each time. -/
structure Host.Pure (host : Host σ) : Prop where
  process : ∃ process, host.process = pure process
  call : ∀ id args, Eval.Pure (host.call id args)
  field : ∀ id name, ∃ v, host.field id name = pure v
  text : ∀ id, ∃ s, host.text id = pure s
  manager : ∀ id, ∃ found, host.manager id = pure found ∧ ∀ manager ∈ found, manager.Pure

/-- The host with one view of the environment, `view`, given each time. -/
def Host.viewing (host : Host σ) (view : Nat) : Host σ := { host with newEnvironment := pure view }

theorem Host.Pure.viewing {host : Host σ} (h : host.Pure) (view : Nat) : (host.viewing view).Pure :=
  ⟨h.process, h.call, h.field, h.text, h.manager⟩

namespace Host

/-- A host whose functions give back their arguments, and which has no objects of its own. -/
def echoing (σ : Type) : Host σ where
  process := pure { id := 1, directory := none, system := "linux", environment := fun _ => none }
  newEnvironment := pure 0
  call _ args := pure (Value.list args)
  field _ _ := pure none
  text _ := pure none
  manager _ := pure none

theorem echoing_pure (σ : Type) : (echoing σ).Pure where
  process := ⟨_, rfl⟩
  call _ args := .ret (Value.list args)
  field _ _ := ⟨none, rfl⟩
  text _ := ⟨none, rfl⟩
  manager _ := ⟨none, rfl, nofun⟩

/-- The host that gives back arguments and has no state. -/
def echo : Host Unit := echoing Unit

theorem echo_pure : echo.Pure := echoing_pure Unit

/-- The host that gives back arguments, and each time a view of the environment that it has not
given before. -/
def fresh : Host Nat := { echoing Nat with newEnvironment := fun given => (given, given + 1) }

theorem fresh_pure : fresh.Pure :=
  have h := echoing_pure Nat
  ⟨h.process, h.call, h.field, h.text, h.manager⟩

end Host

namespace Host.Pure

variable {host : Host σ}

theorem textOf (h : host.Pure) (o : ObjectRef) : ∃ s, host.textOf o = pure s := by
  cases o with
  | process | environment id => exact ⟨none, rfl⟩
  | host id => exact h.text id

/-- The managers that values of a pure host give access to are pure. -/
theorem manager? (h : host.Pure) (v : Value) :
    ∃ found, v.manager? host = pure found ∧ ∀ manager ∈ found, manager.Pure := by
  cases v with
  | object o =>
    cases o with
    | process | environment id => exact ⟨none, rfl, nofun⟩
    | host id => exact h.manager id
  | none | bool | int | float | str | bytes | list | map | func => exact ⟨none, rfl, nofun⟩

mutual

/-- The text of a value is one that its objects have. -/
theorem format (h : host.Pure) (v : Value) : Eval.Pure (v.format host) := by
  match v with
  | .none | .bool _ | .int _ | .float _ | .str _ | .bytes _ =>
    rw [Value.format]
    exact .ret _
  | .map _ | .func _ =>
    rw [Value.format]
    exact .fail _
  | .list items =>
    rw [Value.format]
    exact (formatAll h items).map _
  | .object o =>
    rw [Value.format]
    refine .bind (.lift (h.textOf o)) fun found => ?_
    cases found with
    | some s => exact .ret s
    | none => exact .fail _

theorem formatAll (h : host.Pure) (items : List Value) :
    Eval.Pure (Value.formatAll host items) := by
  match items with
  | [] =>
    rw [Value.formatAll]
    exact .ret _
  | v :: vs =>
    rw [Value.formatAll]
    exact .bind (format h v) fun _ => .bind (formatAll h vs) fun _ => .ret _

end

theorem describe (h : host.Pure) (v : Value) : ∃ s, v.describe host = pure s := by
  obtain ⟨r, hr⟩ := h.format v
  rw [Value.describe, hr]
  cases r with
  | ok s => exact ⟨_, rfl⟩
  | error err => exact ⟨_, rfl⟩

section
variable (h : host.Pure) {view : Nat} (hview : host.newEnvironment = pure view)
include h hview

theorem fieldOf (o : ObjectRef) (name : String) : ∃ v, host.fieldOf o name = pure v := by
  obtain ⟨process, hprocess⟩ := h.process
  cases o with
  | process =>
    simp only [Host.fieldOf, hview, hprocess]
    split <;> exact ⟨_, rfl⟩
  | environment id =>
    simp only [Host.fieldOf, hprocess]
    exact ⟨_, rfl⟩
  | host id => exact h.field id name

theorem item (value key : Value) : ∃ v, Value.item host value key = pure v := by
  unfold Value.item
  split <;> try exact ⟨_, rfl⟩
  split
  · exact h.fieldOf hview ..
  · exact ⟨_, rfl⟩

theorem member (value : Value) (name : String) : ∃ v, Value.member host value name = pure v := by
  unfold Value.member
  split <;> try exact ⟨_, rfl⟩
  exact h.fieldOf hview ..

theorem builtin (b : Builtin) (args : List Value) : Eval.Pure (b.call host args) := by
  refine .bindExcept _ fun v => .bindExcept _ fun w => ?_
  cases b with
  | upper | lower | trim | len | first | last | lt | le | gt | ge | int | float =>
    exact .bindExcept _ fun _ => .ret _
  | split | word | mask => exact .bindExcept _ fun _ => .bindExcept _ fun _ => .ret _
  | join =>
    refine .bindExcept _ fun items => .bindExcept _ fun _ => .bind ?_ fun _ => .ret _
    exact .bind (h.formatAll items) fun _ => .ret _
  | item => exact .bind (.lift (h.item hview ..)) fun _ => .ret _
  | «if» | null | not | eq | ne => exact .ret _
  | reverse | add | sub | mul | div | mod => exact .of _
  | str => exact .bind (h.format v) fun _ => .ret _

theorem callRef (f : FunctionRef) (args : List Value) : Eval.Pure (host.callRef f args) := by
  cases f with
  | host id arity => exact h.call ..
  | builtin b => exact h.builtin hview ..

end

end Host.Pure

namespace Scene

variable {scene : Scene σ}

theorem fail_pure (fault : Fault) (span : Span) : Pure (scene.fail fault span : Eval σ α) := .fail _

theorem lookup_pure (name : Name) : Pure (scene.lookup name) := by
  unfold lookup
  split
  · exact .ret _
  · exact fail_pure ..

section
variable (h : scene.host.Pure)
include h

/-- A fault that shows a key. -/
theorem fail_describing_pure (key : Value) (fault : String → Fault) (span : Span) :
    Pure (do scene.fail (fault (← key.describe scene.host)) span : Eval σ α) :=
  .bind (.lift (h.describe key)) fun _ => fail_pure ..

theorem record_pure {manager : Manager σ} (hm : manager.Pure) (name : String) (key : Value)
    (span : Span) : Pure (scene.record name manager key span) := by
  refine .bind ((hm.get "pk" key).adapt _) fun found => ?_
  cases found with
  | some v => exact .ret v
  | none =>
    refine .bind ((hm.getByNaturalKey key).adapt _) fun found => ?_
    cases found with
    | some v => exact .ret v
    | none => exact fail_describing_pure h ..

theorem recordBy_pure {manager : Manager σ} (hm : manager.Pure) (name field : String) (key : Value)
    (span : Span) : Pure (scene.recordBy name manager field key span) := by
  refine .bind ((hm.get field key).adapt _) fun found => ?_
  cases found with
  | some v => exact .ret v
  | none => exact fail_describing_pure h ..

variable {view : Nat} (hview : scene.host.newEnvironment = pure view)
include hview

theorem item_pure (value key : Value) (span : Span) : Pure (scene.item value key span) := by
  refine .bind (.lift (h.item hview value key)) fun found => ?_
  cases found with
  | none => exact fail_describing_pure h ..
  | some v => exact .ret v

theorem call_pure (name : String) (f : FunctionRef) (args : List Value) (span : Span) :
    Pure (scene.call name f args span) := (h.callRef hview f args).adapt _

theorem root_pure (name : String) (value : Value) (arg : Option Value) (span : Span) :
    Pure (scene.root name value arg span) := by
  unfold root
  split
  · exact call_pure h hview ..
  · exact item_pure h hview ..
  · exact .ret _

theorem evalName_pure (name : Name) : Pure (scene.evalName name) := by
  refine .bind (lookup_pure name) fun value => ?_
  obtain ⟨found, hfound, -⟩ := h.manager? value
  rw [hfound, liftM_pure, pure_bind]
  cases found with
  | some manager => exact .ret value
  | none => exact root_pure h hview ..

theorem member_pure (current : Value) (name : Name) (arg : Option Value) (span : Span) :
    Pure (scene.member current name arg span) := by
  have hfound : Pure (scene.member? current name.text) := by
    refine .bind (.lift (h.item hview ..)) fun found => ?_
    cases found with
    | none => exact .lift (h.member hview ..)
    | some v => exact .ret _
  have hselect : Pure (scene.select current name arg span) := by
    refine .bind hfound fun found => ?_
    split
    · exact .ret _
    · split
      · exact item_pure h hview ..
      · exact .ret _
    · split
      · exact call_pure h hview ..
      · exact fail_pure ..
  refine .bind hselect fun value => ?_
  split
  · exact call_pure h hview ..
  · exact .ret _

end

mutual

/-- **Resolving a sigil over a pure host is pure**, where there is one view of the environment
(`Host.viewing`). -/
theorem evalSigil_pure (h : scene.host.Pure) {view : Nat}
    (hview : scene.host.newEnvironment = pure view) (s : Sigil) : Pure (scene.evalSigil s) := by
  match s with
  | .mk (.mk name argument span) members _ =>
    rw [evalSigil]
    refine .bind (evalOption_pure h hview argument) fun arg =>
      .bind (lookup_pure name) fun value => ?_
    obtain ⟨found, hfound, hm⟩ := h.manager? value
    rw [hfound, liftM_pure, pure_bind]
    cases found with
    | none => exact .bind (root_pure h hview ..) fun v => evalMembers_pure h hview v members
    | some manager =>
      have hm : manager.Pure := hm manager rfl
      cases arg with
      | some key => exact .bind (record_pure h hm ..) fun v => evalMembers_pure h hview v members
      | none =>
        match members with
        | .mk field (some argument) span' :: members =>
          exact .bind (evalArgument_pure h hview argument) fun key =>
            .bind (recordBy_pure h hm ..) fun v => evalMembers_pure h hview v members
        | [] => exact evalMembers_pure h hview value []
        | .mk field none span' :: members =>
          exact evalMembers_pure h hview value (.mk field none span' :: members)

theorem evalMembers_pure (h : scene.host.Pure) {view : Nat}
    (hview : scene.host.newEnvironment = pure view) (current : Value) (members : List Node) :
    Pure (scene.evalMembers current members) := by
  match members with
  | [] => exact .ret _
  | .mk name argument span :: members =>
    rw [evalMembers]
    exact .bind (evalOption_pure h hview argument) fun arg =>
      .bind (member_pure h hview current name arg span) fun v => evalMembers_pure h hview v members

theorem evalOption_pure (h : scene.host.Pure) {view : Nat}
    (hview : scene.host.newEnvironment = pure view) (argument : Option Argument) :
    Pure (scene.evalOption argument) := by
  match argument with
  | none => exact .ret _
  | some argument => exact (evalArgument_pure h hview argument).map _

theorem evalArgument_pure (h : scene.host.Pure) {view : Nat}
    (hview : scene.host.newEnvironment = pure view) (argument : Argument) :
    Pure (scene.evalArgument argument) := by
  match argument with
  | .sigil s => exact evalSigil_pure h hview s
  | .variable name => exact evalName_pure h hview name
  | .literal .. => exact .ret _

end

end Scene

namespace Engine

variable {e : Engine σ} {find? : String → Option Value} {source : String}

/-- The engine with one view of the environment, given each time. -/
def viewing (e : Engine σ) (view : Nat) : Engine σ := { e with host := e.host.viewing view }

/-- Resolving a sigil does not tell views of the environment apart: it is what it would be if there
were one view, given each time. So it is wherever no view is reached (`SYS.ENV`), and everywhere if
the host has one view. -/
def ViewsAlike (e : Engine σ) (find? : String → Option Value) (source : String) : Prop :=
  ∃ view, (e.viewing view).resolve find? source = e.resolve find? source

theorem ViewsAlike.of_pure {view : Nat} (h : e.host.newEnvironment = pure view) :
    e.ViewsAlike find? source := by
  have he : e.viewing view = e := by
    rw [viewing, Host.viewing, ← h]
  exact ⟨view, by rw [he]⟩

/-- **Over a pure host a sigil is pure** that does not tell views of the environment apart. -/
theorem resolve_pure (h : e.host.Pure) (hviews : e.ViewsAlike find? source) :
    Eval.Pure (e.resolve find? source) := by
  obtain ⟨view, hview⟩ := hviews
  rw [← hview, resolve]
  split
  · exact Scene.evalSigil_pure (h.viewing view) rfl _
  · exact .fail _

end Engine
end Interpolation
