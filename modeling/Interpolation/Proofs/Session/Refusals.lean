import Interpolation.Proofs.Context.Sources
import Interpolation.Session

/-!
# Operations of a session that fail

A context takes a layer when all of it is made, so that an operation which fails leaves every
context as it was; and until an overlay is pushed, nothing depends on what its sources do
(`Session.runAction_failed`). The second is about two runs of the same operations, which stay in
step as long as the overlays they differ in are not pushed (`Session.runSteps_agrees`).
-/

namespace Interpolation

variable {σ : Type}

/-! ## Overlays that are not pushed -/

/-- The overlay is not kept under a name of which `N` holds. -/
def OverlayRef.Spares (N : String → Prop) : OverlayRef σ → Prop
  | .kept name => ¬ N name
  | .given _ => True

mutual

/-- An operation pushes no overlay that is kept under a name of which `N` holds, and keeps none
under another name. -/
def Step.Spares (N : String → Prop) : Step σ → Prop
  | .mk _ action => action.Spares N

def Action.Spares (N : String → Prop) : Action σ → Prop
  | .keep name overlay => N name ∨ overlay.Spares N
  | .push _ overlay => overlay.Spares N
  | .scope overlay steps => overlay.Spares N ∧ stepsSpare N steps
  | .new .. | .set .. | .setBase .. | .clearCache | .get _ | .pop _ | .resolve .. | .splice
    .. | .spliceTo .. => True

def stepsSpare (N : String → Prop) : List (Step σ) → Prop
  | [] => True
  | step :: steps => step.Spares N ∧ stepsSpare N steps

end

namespace Session

/-- The sessions differ in nothing but overlays that are kept under names of which `N` holds. -/
structure AgreesBut (N : String → Prop) (s t : Session σ) : Prop where
  main : s.main = t.main
  others : s.others = t.others
  contexts : s.contexts = t.contexts
  handles : s.handles = t.handles
  overlays : ∀ name, ¬ N name → s.overlays.lookup name = t.overlays.lookup name
  host : s.host = t.host

variable {N : String → Prop} {s t : Session σ}

theorem lookup_filter {α : Type} (entries : List (String × α)) (name key : String) :
    (entries.filter (·.1 != name)).lookup key =
      if key = name then none else entries.lookup key := by
  induction entries with
  | nil => exact (ite_self none).symm
  | cons entry entries ih =>
    obtain ⟨k, a⟩ := entry
    by_cases hk : k = name
    · rw [List.filter_cons_of_neg (by simpa using hk), ih]
      by_cases hkey : key = name
      · rw [if_pos hkey, if_pos hkey]
      · rw [if_neg hkey, if_neg hkey, List.lookup_cons, beq_false_of_ne (hk ▸ hkey)]
    · rw [List.filter_cons_of_pos (by simpa using hk), List.lookup_cons, List.lookup_cons, ih]
      by_cases hkey : key = k
      · subst hkey
        simp [hk]
      · rw [beq_false_of_ne hkey]

/-- A context that is changed is changed under all its names, and no other is. -/
theorem context_update (s : Session σ) (name : Option String) (c : Context) (n : Option String) :
    (s.update name c).context n = c ∧ s.context n = s.context name ∨
    (s.update name c).context n = s.context n := by
  rw [update]
  split
  · next found hfound =>
    obtain ⟨rfl, hsome⟩ := Option.filter_eq_some_iff.1 hfound
    cases n with
    | none => exact .inr rfl
    | some other =>
      by_cases hn : other = found
      · subst hn
        exact .inl ⟨by simp [context], rfl⟩
      · refine .inr ?_
        rw [context, Option.bind_some, List.lookup_cons, beq_false_of_ne hn]
        rfl
  · next hnone =>
    have hlookup : (name.bind fun name => s.others.lookup name) = none := by
      cases name with
      | none => rfl
      | some name =>
        exact Option.not_isSome_iff_eq_none.1 (Option.filter_eq_none_iff.1 hnone name rfl)
    have hmain : s.context name = s.main := by rw [context, hlookup, Option.getD_none]
    rw [context, context, hmain]
    cases n.bind fun n => s.others.lookup n with
    | none => exact .inl ⟨rfl, rfl⟩
    | some c => exact .inr rfl

namespace AgreesBut

theorem context (h : AgreesBut N s t) (name : Option String) : s.context name = t.context name := by
  rw [Session.context, Session.context, h.main, h.others]

theorem update (h : AgreesBut N s t) (name : Option String) (c : Context) :
    AgreesBut N (s.update name c) (t.update name c) := by
  rw [Session.update, Session.update, h.others]
  split
  · exact { h with others := rfl }
  · exact { h with main := rfl, others := rfl }

theorem change (h : AgreesBut N s t) (name : Option String) (f : Context → Context) :
    (s.change name f).1 = (t.change name f).1 ∧
    AgreesBut N (s.change name f).2 (t.change name f).2 := by
  rw [Session.change, Session.change, h.context]
  exact ⟨rfl, h.update ..⟩

theorem letHost {α : Type} (h : AgreesBut N s t) (x : StateM σ α) :
    ∃ a s' t', s.letHost x = (a, s') ∧ t.letHost x = (a, t') ∧ AgreesBut N s' t' := by
  refine ⟨(x s.host).1, _, { t with host := (x s.host).2 }, rfl, ?_, { h with host := rfl }⟩
  rw [Session.letHost, h.host]
  rfl

/-- An overlay is used up, whichever it is. -/
theorem take (h : AgreesBut N s t) (overlay : OverlayRef σ) :
    AgreesBut N (s.take overlay).2 (t.take overlay).2 := by
  cases overlay with
  | given overlay => exact h
  | kept name =>
    refine { h with overlays := fun key hkey => ?_ }
    rw [Session.take, Session.take, lookup_filter, lookup_filter, h.overlays key hkey]

theorem taken (h : AgreesBut N s t) {overlay : OverlayRef σ} (hs : overlay.Spares N) :
    (s.take overlay).1 = (t.take overlay).1 := by
  cases overlay with
  | given overlay => rfl
  | kept name => rw [Session.take, Session.take, h.overlays name hs]

theorem keep (h : AgreesBut N s t) (name : String) {overlay : OverlayRef σ}
    (hs : N name ∨ overlay.Spares N) :
    AgreesBut N { (s.take overlay).2 with overlays := (name, (s.take overlay).1) ::
      (s.take overlay).2.overlays }
      { (t.take overlay).2 with overlays := (name, (t.take overlay).1) ::
        (t.take overlay).2.overlays } := by
  refine { h.take overlay with overlays := fun key hkey => ?_ }
  rw [List.lookup_cons, List.lookup_cons, (h.take overlay).overlays key hkey]
  rcases hs with hname | hs
  · have hne : key ≠ name := fun heq => hkey (heq.symm ▸ hname)
    rw [beq_false_of_ne hne]
  · rw [h.taken hs]

theorem pushLayer (h : AgreesBut N s t) (name : Option String) {overlay : OverlayRef σ}
    (hs : overlay.Spares N) :
    ∃ r s' t', s.pushLayer name overlay = (r, s') ∧ t.pushLayer name overlay = (r, t') ∧
    AgreesBut N s' t' := by
  have htake := h.take overlay
  obtain ⟨r, s', t', hrun, hrun', hhost⟩ :=
    htake.letHost ((s.take overlay).2.context name |>.push (s.take overlay).1).run
  rw [htake.context, h.taken hs] at hrun'
  unfold Session.pushLayer
  dsimp only
  rw [hrun, hrun']
  rcases r with err | ⟨c, handle⟩
  · exact ⟨_, _, _, rfl, rfl, hhost⟩
  · exact ⟨_, _, _, rfl, rfl, hhost.update name c⟩

theorem popLayer (h : AgreesBut N s t) (name : Option String) (handle : String) :
    (s.popLayer name handle).1 = (t.popLayer name handle).1 ∧
      AgreesBut N (s.popLayer name handle).2 (t.popLayer name handle).2 := by
  unfold Session.popLayer
  rw [h.handles]
  split
  · exact ⟨rfl, h⟩
  · have hused : AgreesBut N { s with handles := t.handles.filter (·.1 != handle) }
        { t with handles := t.handles.filter (·.1 != handle) } := { h with handles := rfl }
    dsimp only
    rw [hused.context]
    split
    · exact ⟨rfl, hused.update ..⟩
    · exact ⟨rfl, hused⟩

theorem splice (h : AgreesBut N s t) (e : Engine σ) (name : Option String) (text : String) :
    (s.splice e name text).1 = (t.splice e name text).1 ∧
      AgreesBut N (s.splice e name text).2 (t.splice e name text).2 := by
  obtain ⟨⟨r, c⟩, s', t', hrun, hrun', hhost⟩ := h.letHost (e.splice (s.context name) text)
  rw [Session.splice, Session.splice, ← h.context, hrun, hrun']
  cases r <;> exact ⟨rfl, hhost.update ..⟩

theorem spliceTo (h : AgreesBut N s t) (e : Engine σ) (name : Option String) (out : Collector)
    (text : String) :
    (s.spliceTo e name out text).1 = (t.spliceTo e name out text).1 ∧
      AgreesBut N (s.spliceTo e name out text).2 (t.spliceTo e name out text).2 := by
  obtain ⟨⟨r, out', c⟩, s', t', hrun, hrun', hhost⟩ :=
    h.letHost (e.spliceTo Collector.sink (s.context name) text out)
  rw [Session.spliceTo, Session.spliceTo, ← h.context, hrun, hrun']
  cases r <;> exact ⟨rfl, hhost.update ..⟩

end AgreesBut

mutual

theorem runStep_agrees {s t : Session σ} (h : AgreesBut N s t) (e : Engine σ) (here : Option String)
    {step : Step σ} (hs : step.Spares N) :
    (runStep e here s step).1 = (runStep e here t step).1 ∧
      AgreesBut N (runStep e here s step).2 (runStep e here t step).2 := by
  cases step with
  | mk name action => exact runAction_agrees h e here (name.or here) hs

theorem runAction_agrees {s t : Session σ} (h : AgreesBut N s t) (e : Engine σ)
    (here name : Option String) {action : Action σ} (hs : action.Spares N) :
    (runAction e here name s action).1 = (runAction e here name t action).1 ∧
      AgreesBut N (runAction e here name s action).2 (runAction e here name t action).2 := by
  cases action with
  | new other empty =>
    have hcreated : AgreesBut N
        { s with
          others :=
            (other, if empty then .empty s.contexts else .new s.contexts) :: s.others
          contexts := s.contexts + 1 }
        { t with
          others :=
            (other, if empty then .empty t.contexts else .new t.contexts) :: t.others
          contexts := t.contexts + 1 } := by
      rw [h.contexts, h.others]
      exact { h with others := rfl, contexts := rfl }
    exact hcreated.change here id
  | set | setBase | clearCache => exact h.change name _
  | get key =>
    rw [runAction, runAction, h.context]
    exact ⟨rfl, h⟩
  | keep kept overlay => exact (h.keep kept hs).change name id
  | push handle overlay =>
    obtain ⟨r, s', t', hpush, hpush', hafter⟩ := h.pushLayer name hs
    rw [runAction, runAction, hpush, hpush']
    cases r with
    | error err => exact ⟨rfl, hafter⟩
    | ok given =>
      have hgiven : AgreesBut N { s' with handles := (handle, given) :: s'.handles }
          { t' with handles := (handle, given) :: t'.handles } := by
        rw [hafter.handles]
        exact { hafter with handles := rfl }
      exact hgiven.change name id
  | pop handle => exact h.popLayer name handle
  | scope overlay steps =>
    obtain ⟨hoverlay, hsteps⟩ := hs
    obtain ⟨r, s', t', hpush, hpush', hafter⟩ := h.pushLayer name hoverlay
    rw [runAction, runAction, hpush, hpush']
    cases r with
    | error err => exact ⟨rfl, hafter⟩
    | ok given =>
      obtain ⟨hinner, hbody⟩ := runSteps_agrees hafter e name hsteps
      dsimp only
      rw [hinner, hbody.context]
      exact ⟨rfl, hbody.update ..⟩
  | resolve sigil delimiters =>
    obtain ⟨r, s', t', hrun, hrun', hhost⟩ :=
      h.letHost ((e.withOptions { delimiters }).resolve (s.context name).get? sigil).run
    rw [runAction, runAction, ← h.context, hrun, hrun']
    cases r <;> exact ⟨rfl, hhost⟩
  | splice text options => exact h.splice (e.withOptions options) name text
  | spliceTo out text options => exact h.spliceTo (e.withOptions options) name out text

theorem runSteps_agrees {s t : Session σ} (h : AgreesBut N s t) (e : Engine σ)
    (here : Option String) {steps : List (Step σ)} (hs : stepsSpare N steps) :
    (runSteps e here s steps).1 = (runSteps e here t steps).1 ∧
      AgreesBut N (runSteps e here s steps).2 (runSteps e here t steps).2 := by
  cases steps with
  | nil => exact ⟨rfl, h⟩
  | cons step steps =>
    obtain ⟨hstep, hsteps⟩ := hs
    obtain ⟨hfirst, hafter⟩ := runStep_agrees h e here hstep
    obtain ⟨hrest, hend⟩ := runSteps_agrees hafter e here hsteps
    rw [runSteps, runSteps]
    dsimp only
    rw [hfirst, hrest]
    exact ⟨rfl, hend⟩

end

end Session

/-! ## Operations that fail -/

/-- An operation pushes a layer, that of an overlay. -/
inductive Action.Pushes (overlay : OverlayRef σ) : Action σ → Prop where
  | push (handle : String) : Pushes overlay (.push handle overlay)
  | scope (steps : List (Step σ)) : Pushes overlay (.scope overlay steps)

/-- An operation resolves sigils. -/
inductive Action.Resolves : Action σ → Prop where
  | resolve (sigil : String) (delimiters : Option Delimiters) : Resolves (.resolve sigil delimiters)
  | splice (text : String) (options : SpliceOptions) : Resolves (.splice text options)
  | spliceTo (out : Collector) (text : String) (options : SpliceOptions) :
    Resolves (.spliceTo out text options)

namespace Session

section
variable {e : Engine σ} {here name : Option String} {overlay : OverlayRef σ}
    {action : Action σ} {err : Error}
  {s s' : Session σ} {host : σ}

theorem host_take (s : Session σ) (overlay : OverlayRef σ) : (s.take overlay).2.host = s.host := by
  cases overlay <;> rfl

theorem host_update (s : Session σ) (name : Option String) (c : Context) :
    (s.update name c).host = s.host := by
  unfold update
  split <;> rfl

theorem letHost_push {r : Except Error Table} (c : Context) (parts : Overlay σ)
    (h : parts.layer.run s.host = (r, host)) :
    s.letHost (c.push parts).run = (r.map c.pushLayer, { s with host }) := by
  have hrun := c.run_push parts s.host
  rw [h] at hrun
  exact congrArg (fun r : Except Error (Context × Handle) × σ => (r.1, { s with host := r.2 })) hrun

theorem pushLayer_of_error (h : (s.take overlay).1.layer.run s.host = (.error err, host)) :
    s.pushLayer name overlay = (.error err, { (s.take overlay).2 with host }) := by
  rw [← host_take s overlay] at h
  unfold pushLayer
  dsimp only
  rw [letHost_push _ _ h]
  rfl

theorem pushLayer_of_ok {layer : Table}
    (h : (s.take overlay).1.layer.run s.host = (.ok layer, host)) :
    ∃ given s', s.pushLayer name overlay = (.ok given, s') := by
  rw [← host_take s overlay] at h
  unfold pushLayer
  dsimp only
  rw [letHost_push _ _ h]
  exact ⟨_, _, rfl⟩

theorem pushLayer_eq_error_iff : s.pushLayer name overlay = (.error err, s') ↔
    ∃ host, (s.take overlay).1.layer.run s.host = (.error err, host) ∧
    s' = { (s.take overlay).2 with host } := by
  constructor
  · intro h
    rcases hlayer : (s.take overlay).1.layer.run s.host with ⟨err' | layer, host⟩
    · rw [pushLayer_of_error hlayer] at h
      cases h
      exact ⟨host, rfl, rfl⟩
    · obtain ⟨given, s'', hok⟩ : ∃ given s'', s.pushLayer name overlay = (.ok given, s'') :=
        pushLayer_of_ok hlayer
      rw [hok] at h
      cases h
  · rintro ⟨host, hlayer, rfl⟩
    exact pushLayer_of_error hlayer

/-- A push or a scope fails exactly if its layer is not pushed (`pushLayer`). -/
theorem runAction_failed_iff (ha : action.Pushes overlay) :
    runAction e here name s action = (.failed err, s') ↔
    s.pushLayer name overlay = (.error err, s') := by
  cases ha with
  | push handle =>
    rw [runAction]
    rcases s.pushLayer name overlay with ⟨err' | given, s''⟩
    · constructor <;> rintro ⟨⟩ <;> rfl
    · constructor <;> rintro ⟨⟩
  | scope steps =>
    rw [runAction]
    rcases s.pushLayer name overlay with ⟨err' | given, s''⟩
    · constructor <;> rintro ⟨⟩ <;> rfl
    · constructor <;> rintro ⟨⟩

theorem context_of_pushLayer_eq_error (h : s.pushLayer name overlay = (.error err, s'))
    (n : Option String) :
    s'.context n = s.context n := by
  obtain ⟨host, -, rfl⟩ := pushLayer_eq_error_iff.1 h
  cases overlay <;> rfl

/-- A handle that is refused is used up, and nothing else happens. -/
theorem popLayer_failed {handle : String} (h : s.popLayer name handle = (.failed err, s')) :
    s' = { s with handles := s.handles.filter (·.1 != handle) } := by
  unfold popLayer at h
  split at h
  · cases h
  · dsimp only at h
    split at h <;> cases h
    rfl

theorem runAction_resolve (e : Engine σ) (here name : Option String) (s : Session σ)
    (sigil : String) (delimiters : Option Delimiters) :
    ∃ host, (runAction e here name s (.resolve sigil delimiters)).2 = { s with host } := by
  rw [runAction, letHost]
  dsimp only
  split <;> exact ⟨_, rfl⟩

/-- An operation that fails without splicing leaves every context as it was. -/
theorem context_of_failed (ha : ∀ text options, action ≠ .splice text options)
    (h : runAction e here name s action = (.failed err, s')) (n : Option String) :
    s'.context n = s.context n := by
  cases action with
  | new | set | setBase | clearCache | get | keep =>
    rw [runAction] at h
    cases h
  | spliceTo out text options =>
    rw [runAction, spliceTo] at h
    dsimp only at h
    split at h <;> cases h
  | splice text options => exact absurd rfl (ha text options)
  | push handle overlay =>
    exact context_of_pushLayer_eq_error ((runAction_failed_iff (.push handle)).1 h) n
  | scope overlay steps =>
    exact context_of_pushLayer_eq_error ((runAction_failed_iff (.scope steps)).1 h) n
  | pop handle =>
    rw [popLayer_failed h]
    rfl
  | resolve sigil delimiters =>
    obtain ⟨host, hs'⟩ := runAction_resolve e here name s sigil delimiters
    rw [h] at hs'
    rw [show s' = { s with host } from hs']
    rfl

/-- A context that changed in its cache alone is in every context the same but for the cache. -/
theorem layers_update (s : Session σ) (name n : Option String) (cache : Table) (host : σ) :
    ∃ cache', ({ s with host }.update name { s.context name with cache }).context n =
      { s.context n with cache := cache' } := by
  rcases context_update { s with host } name { s.context name with cache } n with
    ⟨hnew, hold⟩ | hsame
  · exact ⟨cache, hnew.trans (congrArg (fun c : Context => { c with cache }) hold.symm)⟩
  · exact ⟨_, hsame⟩

/-- Resolving sigils leaves all layers as they were. -/
theorem layers_of_resolves (ha : action.Resolves) (n : Option String) :
    ∃ cache, (runAction e here name s action).2.context n = { s.context n with cache } := by
  cases ha with
  | resolve sigil delimiters =>
    obtain ⟨host, hs'⟩ := runAction_resolve e here name s sigil delimiters
    rw [hs']
    exact ⟨_, rfl⟩
  | splice text options =>
    obtain ⟨r, cache, host, hrun⟩ :
        ∃ r cache host, s.letHost ((e.withOptions options).splice (s.context name) text) =
        ((r, { s.context name with cache }), { s with host }) := ⟨_, _, _, rfl⟩
    rw [runAction, splice, hrun]
    cases r <;> exact layers_update s name n cache host
  | spliceTo out text options =>
    have hcontext :=
      ((e.withOptions options).context_spliceTo Collector.sink (s.context name) text out s.host).1
    obtain ⟨r, out', cache, host, hrun⟩ : ∃ r out' cache host,
        s.letHost ((e.withOptions options).spliceTo Collector.sink (s.context name) text out) =
          ((r, out', { s.context name with cache }), { s with host }) := by
      refine ⟨_, _, _, _, Prod.ext (Prod.ext rfl (Prod.ext rfl hcontext)) rfl⟩
    rw [runAction, spliceTo, hrun]
    cases r <;> exact layers_update s name n cache host

end

/-- **An operation that fails leaves every context as it was.** A push or a scope fails exactly if
its overlay has a part that fails (`Overlay.Part.Fails`) after the parts before it did not. Then all
is as before, but the overlay is used up, and on the host each source up to that part was called
once, in order. Neither a failing push or scope nor a handle that is refused changes a context.
Resolving and splicing change no layer, whether they fail or not. Keeping an overlay calls none of
its sources, and as long as overlays are not pushed, everything goes the same whatever they are. -/
theorem runAction_failed (e : Engine σ) (here name : Option String) (s : Session σ) :
    (∀ overlay action, action.Pushes overlay →
      ∀ err s', runAction e here name s action = (.failed err, s') ↔
      ∃ before part after, (s.take overlay).1 = before ++ part :: after ∧
      Overlay.Succeeds before s.host ∧
        part.Fails (Overlay.called before s.host) err ∧
        s' = { (s.take overlay).2 with host := Overlay.called (before ++ [part]) s.host }) ∧
    (∀ action err s', (∀ text options, action ≠ .splice text options) →
      runAction e here name s action = (.failed err, s') → ∀ n, s'.context n = s.context n) ∧
    (∀ action, action.Resolves →
      ∀ n, ∃ cache, (runAction e here name s action).2.context n = { s.context n with cache }) ∧
    (∀ kept overlay, (runAction e here name s (.keep kept overlay)).2.host = s.host) ∧
    ∀ N t steps, AgreesBut N s t → stepsSpare N steps →
      (runSteps e here s steps).1 = (runSteps e here t steps).1 ∧
        AgreesBut N (runSteps e here s steps).2 (runSteps e here t steps).2 := by
  refine ⟨fun overlay action ha err s' => ?_, fun action err s' ha h => context_of_failed ha h,
    fun action ha => layers_of_resolves ha, fun kept overlay => ?_, fun N t steps h hs =>
      runSteps_agrees h e here hs⟩
  · rw [runAction_failed_iff ha, pushLayer_eq_error_iff]
    constructor
    · rintro ⟨host, hlayer, rfl⟩
      obtain ⟨before, part, after, hsplit, hbefore, hpart, rfl⟩ :=
        Overlay.run_layer_eq_error_iff.1 hlayer
      exact ⟨before, part, after, hsplit, hbefore, hpart, rfl⟩
    · rintro ⟨before, part, after, hsplit, hbefore, hpart, rfl⟩
      exact ⟨_, Overlay.run_layer_eq_error_iff.2
        ⟨before, part, after, hsplit, hbefore, hpart, rfl⟩, rfl⟩
  · rw [runAction]
    exact (host_update ..).trans (host_take s overlay)

end Session

/-- A host that notes what it is asked. -/
def Host.noting : Host (List String) := .echoing (List String)

/-- A source that leaves a note when it is called. -/
def Overlay.Part.noting (note : String) (answer : Except Error Value) :
    Overlay.Part (List String) :=
  .source (ExceptT.mk fun notes => (answer, notes ++ [note]))

/-- An overlay that fails at the second of its three sources, and a handle that is refused. -/
theorem Session.runAction_failed_halfway :
    let e := Engine.new Host.noting
    let overlay : Overlay (List String) :=
      [.noting "a" (.ok (.map .nil)), .set "k" (.int 1), .noting "b" (.ok (.int 2)),
        .noting "c" (.ok (.map .nil))]
    let s := { Session.start true [] with handles := [("h", ⟨0, 1⟩)], overlays := [("o", overlay)] }
    runAction e none none s (.push "h" (.kept "o")) =
        (.failed (.of (.overlayNotMap .integer)), { s with overlays := [], host := ["a", "b"] }) ∧
      (∀ n, (runAction e none none s (.pop "h")).2.context n = s.context n) ∧
      (∃ cache, (runAction e none none s (.splice "[A]" {})).2.main = { s.main with cache }) ∧
      (runSteps e none s [.mk none (.push "x" (.given []))]).1 =
        (runSteps e none { s with overlays := [] } [.mk none (.push "x" (.given []))]).1 := by
  intro e overlay s
  obtain ⟨hpush, hfailed, hresolves, -, hkept⟩ := runAction_failed e none none s
  have hfirst (err : Error) : ¬ (Overlay.Part.noting "a" (.ok (.map .nil))).Fails s.host err := by
    rintro (_ | _ | h | ⟨h, hv⟩)
    · cases h
    · cases h
      exact hv .nil rfl
  have hset (err : Error) : ¬ (Overlay.Part.set "k" (.int 1)).Fails ["a"] err := nofun
  have hsecond : (Overlay.Part.noting "b" (.ok (.int 2))).Fails ["a"]
      (.of (.overlayNotMap .integer)) :=
    .sourceNotMap (v := .int 2) rfl nofun
  refine ⟨(hpush (.kept "o") _ (.push "h") _ _).2 ?_, ?_, ?_, ?_⟩
  · exact ⟨[.noting "a" (.ok (.map .nil)), .set "k" (.int 1)], .noting "b" (.ok (.int 2)),
      [.noting "c" (.ok (.map .nil))], rfl, ⟨hfirst, hset, trivial⟩, hsecond, rfl⟩
  · exact hfailed (.pop "h") (.of (.notInnermost 1 0)) { s with handles := [] } nofun rfl
  · exact hresolves _ (.splice "[A]" {}) none
  · have hbut : s.AgreesBut (· = "o") { s with overlays := [] } := by
      refine ⟨rfl, rfl, rfl, rfl, fun name hname => ?_, rfl⟩
      rw [List.lookup_cons, beq_false_of_ne hname]
    exact (hkept _ _ [.mk none (.push "x" (.given []))] hbut ⟨trivial, trivial⟩).1

end Interpolation
