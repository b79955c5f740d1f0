import Interpolation.Proofs.Builtin.Failure
import Interpolation.Proofs.Sigil.Regions
import Interpolation.Resolution

/-!
# How resolving a sigil fails

Functions and managers of the host fail in ways of their own, but each of their errors is reported
as that of a call, at a place of the sigil; all other errors are made where something is not found
(`Scene.evalSigil_failsOnly`). Whatever the host does, every failure is a miss that points into the
sigil (`Error.misses_reports`).
-/

namespace Interpolation

variable {σ α β : Type}

open Eval

/-! ## Misses -/

/-- The error is that something in the source of a sigil has no value, and says where. A call that
is refused for the type of an argument may say where by itself. -/
structure Error.Misses (source : String) (err : Error) : Prop where
  kind : err.kind ∈ [.keyNotFound, .fieldNotFound, .callable, .typeMismatch]
  located : ∃ l, err.location = some l ∧ (l.source = source ∨ err.kind = .typeMismatch)

theorem Error.Misses.isMiss {source : String} {err : Error} (h : err.Misses source) :
    err.isMiss = true := by
  have hkind := h.kind
  unfold Error.isMiss
  generalize err.kind = kind at hkind
  cases kind <;> first | rfl | exact absurd hkind (by decide)

@[simp] theorem Error.kind_locate (source : String) (span : Span) (err : Error) :
    (err.locate source span).kind = err.kind := by
  unfold Error.locate
  split <;> rfl

/-! ## Hosts -/

/-- Functions and managers of the host fail only with errors that have the property `P`. -/
structure Host.FailsOnly (P : Error → Prop) (host : Host σ) : Prop where
  call : ∀ id args, Eval.FailsOnly P (host.call id args)
  get : ∀ {id s manager}, ((host.manager id).run s).1 = some manager →
    ∀ field key, Eval.FailsOnly P (manager.get field key)
  getByNaturalKey : ∀ {id s manager}, ((host.manager id).run s).1 = some manager →
    ∀ key, Eval.FailsOnly P (manager.getByNaturalKey key)

/-- Nothing is known of how a host fails. -/
theorem Host.failsOnly_any (host : Host σ) : host.FailsOnly fun _ => True where
  call _ _ := ⟨fun _ => trivial⟩
  get _ _ _ := ⟨fun _ => trivial⟩
  getByNaturalKey _ _ := ⟨fun _ => trivial⟩

namespace Host.FailsOnly

variable {host : Host σ} {P Q : Error → Prop}

theorem mono (h : host.FailsOnly P) (hPQ : ∀ err, P err → Q err) : host.FailsOnly Q where
  call id args := (h.call id args).mono hPQ
  get hm field key := (h.get hm field key).mono hPQ
  getByNaturalKey hm key := (h.getByNaturalKey hm key).mono hPQ

/-- A builtin function is at fault nowhere. -/
theorem callRef (h : host.FailsOnly P) (hmade : ∀ err, err.location = none → P err)
    (f : FunctionRef) (args : List Value) : Eval.FailsOnly P (host.callRef f args) := by
  cases f with
  | host id arity => exact h.call ..
  | builtin b => exact (Builtin.call_failsOnly host b _).mono hmade

theorem managerOf (h : host.FailsOnly P) {o : ObjectRef} {s : σ} {manager : Manager σ}
    (hm : ((host.managerOf o).run s).1 = some manager) :
    (∀ field key, Eval.FailsOnly P (manager.get field key)) ∧
      ∀ key, Eval.FailsOnly P (manager.getByNaturalKey key) := by
  cases o with
  | host id => exact ⟨h.get hm, h.getByNaturalKey hm⟩
  | process | environment => cases hm

end Host.FailsOnly

/-- What becomes of faults, and of the errors of calls, which have the property `Q`, when they are
reported at places of a source: they have the property `P`. -/
structure Error.Reports (source : String) (place : Span → Prop) (Q P : Error → Prop) :
    Prop extends Places place where
  made : ∀ err, err.location = none → Q err
  fault : ∀ {fault span}, fault.kind ∈ [.keyNotFound, .fieldNotFound, .callable,
    .typeMismatch] → place span →
    P ((Error.of fault).locate source span)
  call : ∀ {name err span}, Q err → place span → P ((Error.ofCall name err).locate source span)

variable {source : String} {span : Span}

/-- A fault that is reported in `source` is reported there. -/
theorem misses_of_fault (hne : source ≠ "") {fault : Fault}
    (h : fault.kind ∈ [.keyNotFound, .fieldNotFound, .callable, .typeMismatch]) :
    ((Error.of fault).locate source span).Misses source where
  kind := by
    rw [Error.kind_locate]
    exact h
  located := ⟨⟨source, span⟩, by simp [Error.locate, Error.of, hne], .inl rfl⟩

/-- **Whatever a call fails with, it is reported as a miss.** -/
theorem misses_ofCall (hne : source ≠ "") (name : String) (err : Error) :
    ((Error.ofCall name err).locate source span).Misses source := by
  unfold Error.ofCall
  split
  · next hkind =>
    refine ⟨by simp [hkind], ?_⟩
    cases hl : err.location with
    | none => exact ⟨⟨source, span⟩, by simp [Error.locate, hl, hne], .inl rfl⟩
    | some l => exact ⟨l, by simp [Error.locate, hl], .inr (by simp [hkind])⟩
  · refine ⟨?_, ⟨source, span⟩, by simp [Error.locate, hne], .inl rfl⟩
    rw [Error.kind_locate]
    exact List.mem_of_elem_eq_true rfl

theorem Error.misses_reports (hne : source ≠ "") :
    Reports source (fun _ => True) (fun _ => True) (·.Misses source) where
  join _ _ := trivial
  made _ _ := trivial
  fault h _ := misses_of_fault hne h
  call _ _ := misses_ofCall hne ..

/-! ## Resolving -/

namespace Scene

variable {scene : Scene σ} {place : Span → Prop} {P Q : Error → Prop}

section
variable (hr : Error.Reports scene.source place Q P)
include hr

theorem fail_failsOnly {fault : Fault}
    (h : fault.kind ∈ [.keyNotFound, .fieldNotFound, .callable, .typeMismatch]) {span : Span}
    (hspan : place span) : FailsOnly P (scene.fail fault span : Eval σ α) :=
  .fail (hr.fault h hspan)

theorem calling_failsOnly (name : String) {span : Span} (hspan : place span) {action : Eval σ α}
    (ha : FailsOnly Q action) : FailsOnly P (scene.calling name span action) :=
  ha.adapt fun _ h => hr.call h hspan

theorem lookup_failsOnly {name : Name} (hname : place name.span) :
    FailsOnly P (scene.lookup name) := by
  unfold lookup
  split
  · exact .ret _
  · exact fail_failsOnly hr (by simp [Fault.kind]) hname

theorem item_failsOnly (value key : Value) {span : Span} (hspan : place span) :
    FailsOnly P (scene.item value key span) :=
  .bindOption (.lift _) .ret <| .bind (.lift _) fun _ =>
    fail_failsOnly hr (by simp [Fault.kind]) hspan

section
variable {manager : Manager σ} (hget : ∀ field key, FailsOnly Q (manager.get field key))
include hget

theorem record_failsOnly (hnatural : ∀ key, FailsOnly Q (manager.getByNaturalKey key))
    (name : String) (key : Value) {span : Span} (hspan : place span) :
    FailsOnly P (scene.record name manager key span) :=
  .bindOption (calling_failsOnly hr name hspan (hget ..)) .ret <|
    .bindOption (calling_failsOnly hr name hspan (hnatural key)) .ret <|
      .bind (.lift _) fun _ => fail_failsOnly hr (by simp [Fault.kind]) hspan

theorem recordBy_failsOnly (name : String) (field : String) (key : Value) {span : Span}
    (hspan : place span) :
    FailsOnly P (scene.recordBy name manager field key span) :=
  .bindOption (calling_failsOnly hr name hspan (hget ..)) .ret <|
    .bind (.lift _) fun _ => fail_failsOnly hr (by simp [Fault.kind]) hspan

end

variable (hh : scene.host.FailsOnly Q)
include hh

theorem call_failsOnly (name : String) (f : FunctionRef) (args : List Value) {span : Span}
    (hspan : place span) :
    FailsOnly P (scene.call name f args span) :=
  calling_failsOnly hr name hspan (hh.callRef hr.made f args)

theorem root_failsOnly (name : String) (value : Value) (arg : Option Value) {span : Span}
    (hspan : place span) :
    FailsOnly P (scene.root name value arg span) := by
  unfold root
  split
  · exact call_failsOnly hr hh _ _ _ hspan
  · exact item_failsOnly hr _ _ hspan
  · exact .ret _

theorem evalName_failsOnly {name : Name} (hname : place name.span) :
    FailsOnly P (scene.evalName name) :=
  .bind (lookup_failsOnly hr hname) fun value =>
    .bindOption (.lift _) (fun _ => .ret value) (root_failsOnly hr hh _ _ _ hname)

theorem select_failsOnly (current : Value) {name : Name} (hname : place name.span)
    (arg : Option Value) {span : Span} (hspan : place span) :
    FailsOnly P (scene.select current name arg span) := by
  have hfound : FailsOnly P (scene.member? current name.text) :=
    .bindOption (.lift _) (fun _ => .ret _) (.lift _)
  refine .bind hfound fun found => ?_
  split
  · exact .ret _
  · split
    · exact item_failsOnly hr _ _ hspan
    · exact .ret _
  · split
    · exact call_failsOnly hr hh _ _ _ hspan
    · exact fail_failsOnly hr (by simp [Fault.kind]) hname

theorem member_failsOnly (current : Value) {name : Name} (hname : place name.span)
    (arg : Option Value) {span : Span} (hspan : place span) :
    FailsOnly P (scene.member current name arg span) := by
  refine .bind (select_failsOnly hr hh current hname arg hspan) fun value => ?_
  split
  · exact call_failsOnly hr hh _ _ _ hspan
  · exact .ret _

end

theorem managed_failsOnly (hh : scene.host.FailsOnly Q) {value : Value} {s : σ}
    {manager : Manager σ} (hm : ((value.manager? scene.host).run s).1 = some manager) :
    (∀ field key, FailsOnly Q (manager.get field key)) ∧
    ∀ key, FailsOnly Q (manager.getByNaturalKey key) := by
  cases value with
  | object o => exact hh.managerOf hm
  | none | bool | int | float | str | bytes | list | map | func => cases hm

mutual

/-- **Resolving a sigil fails only with faults and with errors of calls**, reported at places of the
sigil (`Error.Reports`). -/
theorem evalSigil_failsOnly (hr : Error.Reports scene.source place Q P)
    (hh : scene.host.FailsOnly Q) (s : Sigil) (hs : ∀ span ∈ s.spans, place span) :
    FailsOnly P (scene.evalSigil s) := by
  match s with
  | .mk (.mk name argument span) members _ =>
    obtain ⟨hroot, hmembers⟩ := List.forall_mem_append.1 (List.forall_mem_cons.1 hs).2
    obtain ⟨hspan, hroot⟩ := List.forall_mem_cons.1 hroot
    obtain ⟨hname, hargument⟩ := List.forall_mem_cons.1 hroot
    have hrest (v : Value) : FailsOnly P (scene.evalMembers v members) :=
      evalMembers_failsOnly hr hh v members hmembers
    rw [evalSigil]
    refine .bind (evalOption_failsOnly hr hh argument hargument) fun arg =>
      .bind (lookup_failsOnly hr hname) fun value => .lift_bind fun s => ?_
    split
    · exact .bind (root_failsOnly hr hh _ _ _ hspan) hrest
    · next manager hmanager =>
      obtain ⟨hget, hnatural⟩ := managed_failsOnly hh hmanager
      split
      · exact .bind (record_failsOnly hr hget hnatural _ _ hspan) hrest
      · split
        · next field argument span' members =>
          obtain ⟨hfield, hmembers⟩ := List.forall_mem_append.1 hmembers
          obtain ⟨hspan', hfield⟩ := List.forall_mem_cons.1 hfield
          exact .bind (evalArgument_failsOnly hr hh argument
            (List.forall_mem_cons.1 hfield).2) fun key =>
            .bind (recordBy_failsOnly hr hget _ _ _ (hr.join hspan hspan')) fun v =>
              evalMembers_failsOnly hr hh v members hmembers
        · exact hrest value

theorem evalMembers_failsOnly (hr : Error.Reports scene.source place Q P)
    (hh : scene.host.FailsOnly Q) (current : Value) (members : List Node)
    (hs : ∀ span ∈ membersSpans members, place span) :
    FailsOnly P (scene.evalMembers current members) := by
  match members with
  | [] => exact .ret _
  | .mk name argument span :: members =>
    obtain ⟨hnode, hmembers⟩ := List.forall_mem_append.1 hs
    obtain ⟨hspan, hnode⟩ := List.forall_mem_cons.1 hnode
    obtain ⟨hname, hargument⟩ := List.forall_mem_cons.1 hnode
    rw [evalMembers]
    exact .bind (evalOption_failsOnly hr hh argument hargument) fun arg =>
      .bind (member_failsOnly hr hh current hname arg hspan) fun v =>
        evalMembers_failsOnly hr hh v members hmembers

theorem evalOption_failsOnly (hr : Error.Reports scene.source place Q P)
    (hh : scene.host.FailsOnly Q) (argument : Option Argument)
    (hs : ∀ span ∈ optionSpans argument, place span) :
    FailsOnly P (scene.evalOption argument) := by
  match argument with
  | none => exact .ret _
  | some argument => exact (evalArgument_failsOnly hr hh argument hs).map _

theorem evalArgument_failsOnly (hr : Error.Reports scene.source place Q P)
    (hh : scene.host.FailsOnly Q) (argument : Argument) (hs : ∀ span ∈ argument.spans, place span) :
    FailsOnly P (scene.evalArgument argument) := by
  match argument with
  | .sigil s => exact evalSigil_failsOnly hr hh s hs
  | .variable name => exact evalName_failsOnly hr hh (hs _ List.mem_cons_self)
  | .literal .. => exact .ret _

end

end Scene
end Interpolation
