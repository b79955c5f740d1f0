import Interpolation.Proofs.Context.Entries
import Interpolation.Proofs.Context.Handles

/-!
# What a scope puts back

While a scope is open anything can happen to its context: names are written, layers are pushed and
stay there, scopes are entered and left inside, operations fail. When the scope is left, the layers
above the base are those that were there when it was entered, and the base has got what was written
in it by name (`World.leave_restores`).

The invariant is that these layers stay where they are, below the layer of the scope
(`Place.Inside`). The innermost layer, in which names are written, is never one of them, and a
handle pops none of them, for no handle was given for the layer of the scope. Only a handle whose
own layer is gone could pop that layer, by its height alone; in the body of a scope no such handle
is used (`World.Body`).
-/

namespace Interpolation

open Text

variable {σ : Type}

namespace Operation

/-- The operation enters and leaves no scope and uses no handle. -/
def IsPlain : Operation σ → Prop
  | .pop _ | .enter _ | .leave => False
  | _ => True

/-- What the operation writes in the base, whichever layer is innermost. -/
def baseWrites : Operation σ → List (String × Value)
  | .setBase key value => [(key, value)]
  | _ => []

end Operation

namespace World

/-- The layer of the handle `t` is still there. -/
def Keeps (w : World σ) (t : Ticket) : Prop := ∃ p, w.places[t.owner]? = some p ∧ t.mark ∈ p.marks

/-- What can happen to the context `i` while a scope of it is open, and what is written in the base
meanwhile. Looking up a name or resolving a sigil changes nothing but the host. -/
inductive Body (i : Nat) : World σ → List (String × Value) → World σ → Prop where
  | nil (w : World σ) : Body i w [] w
  | act {w w' : World σ} {written : List (String × Value)} (h : Body i w written w')
    (op : Operation σ) (hop : op.IsPlain) : Body i w (written ++ op.baseWrites) (w'.act i op)
  /-- A handle is used. If it is one of this context, its layer is there (`Keeps`). -/
  | pop {w w' : World σ} {written : List (String × Value)} (h : Body i w written w')
    {before after : List Ticket} {t : Ticket} (ht : w'.tickets = before ++ t :: after)
    (hkeeps : t.owner = i → w'.Keeps t) :
    Body i w written ({ w' with tickets := before ++ after }.act i (.pop t.handle))
  /-- A scope is entered and left, with a body of its own. -/
  | scope {w w' w'' : World σ} {written inner : List (String × Value)} (h : Body i w written w')
    {overlay : Overlay σ} {layer : Table} (hpush : (overlay.layer.run w'.host).1 = .ok layer)
    (hinner : Body i (w'.act i (.enter overlay)) inner w'') :
    Body i w (written ++ inner) (w''.act i .leave)
  /-- A scope is not entered, because its overlay fails. -/
  | refused {w w' : World σ} {written : List (String × Value)} (h : Body i w written w')
    {overlay : Overlay σ} {err : Error} (hpush : (overlay.layer.run w'.host).1 = .error err) :
    Body i w written (w'.act i (.enter overlay))
  /-- Something happens that leaves the context as it is, to another context for one. -/
  | elsewhere {w w' w'' : World σ} {written : List (String × Value)} (h : Body i w written w')
    (hs : Step w' w'') (hplace : w''.places[i]? = w'.places[i]?) : Body i w written w''

end World

/-- **The invariant** of a scope that was entered at `p`: below its layer, with `mark`, are the
layers of `p`. -/
structure Place.Inside (q p : Place) (mark : Nat) (written : List (String × Value)) : Prop where
  id : q.context.id = p.context.id
  base : q.context.base = p.context.base.write written
  scopes : q.scopes = (p.context.depth + 1) :: p.scopes
  layers : ∃ inner layer marks, q.context.pushed = inner ++ layer :: p.context.pushed ∧
    q.marks = marks ++ mark :: p.marks ∧ marks.length = inner.length

namespace Place

/-- The place after `op`, when `host` is the state of the host. -/
def after (q : Place) (op : Operation σ) (host : σ) (fresh : Nat) : Place :=
  ⟨(op.after ⟨q.toSite, host⟩).toSite,
    World.remark fresh q.context.depth (op.after ⟨q.toSite, host⟩).context.depth q.marks⟩

theorem remark_self (fresh depth : Nat) (marks : List Nat) :
    World.remark fresh depth depth marks = marks := by
  rw [World.remark, if_neg (Nat.lt_irrefl _), Nat.sub_self, List.drop_zero]

theorem remark_succ (fresh depth : Nat) (marks : List Nat) :
    World.remark fresh depth (depth + 1) marks = fresh :: marks := by
  rw [World.remark, if_pos (Nat.lt_succ_self _)]

namespace Inside

variable {q p : Place} {mark : Nat} {written : List (String × Value)}

/-- The layers stay, and so do their `marks`. -/
theorem of_pushed (h : q.Inside p mark written) {c : Context} (hid : c.id = q.context.id)
    (hbase : c.base = q.context.base) (hpushed : c.pushed = q.context.pushed) (fresh : Nat) :
    Inside ⟨⟨c, q.scopes⟩, World.remark fresh q.context.depth c.depth q.marks⟩ p mark written := by
  have hdepth : c.depth = q.context.depth := congrArg List.length hpushed
  rw [hdepth, remark_self]
  refine ⟨hid.trans h.id, hbase.trans h.base, h.scopes, ?_⟩
  obtain ⟨inner, layer, marks, hlayers, hmarks, hlength⟩ := h.layers
  exact ⟨inner, layer, marks, hpushed.trans hlayers, hmarks, hlength⟩

theorem set (h : q.Inside p mark written) (key : String) (value : Value) (fresh : Nat) :
    Inside ⟨⟨q.context.set key value, q.scopes⟩,
      World.remark fresh q.context.depth (q.context.set key value).depth q.marks⟩ p
        mark written := by
  obtain ⟨inner, layer, marks, hlayers, hmarks, hlength⟩ := h.layers
  rw [Context.depth_set, remark_self]
  refine ⟨(q.context.id_set key value).trans h.id, ?_, h.scopes, ?_⟩
  · rw [Context.set, hlayers]
    cases inner <;> exact h.base
  · rw [Context.set, hlayers]
    cases inner with
    | nil => exact ⟨[], layer.insert (upperCase key) value, marks, rfl, hmarks, hlength⟩
    | cons first inner =>
      exact ⟨first.insert (upperCase key) value :: inner, layer, marks, rfl, hmarks, hlength⟩

theorem setBase (h : q.Inside p mark written) (key : String) (value : Value) (fresh : Nat) :
    Inside ⟨⟨q.context.setBase key value, q.scopes⟩,
      World.remark fresh q.context.depth (q.context.setBase key value).depth q.marks⟩ p mark
      (written ++ [(key, value)]) := by
  have hdepth : (q.context.setBase key value).depth = q.context.depth := rfl
  rw [hdepth, remark_self]
  refine ⟨h.id, ?_, h.scopes, h.layers⟩
  rw [Table.write_append, Table.write_singleton, ← h.base]
  rfl

theorem pushed (h : q.Inside p mark written) (layer : Table) (fresh : Nat) :
    Inside ⟨⟨(q.context.pushLayer layer).1, q.scopes⟩,
      World.remark fresh q.context.depth (q.context.depth + 1) q.marks⟩ p mark written := by
  obtain ⟨inner, own, marks, hlayers, hmarks, hlength⟩ := h.layers
  rw [remark_succ]
  refine ⟨h.id, h.base, h.scopes, layer :: inner, own, fresh :: marks, ?_, ?_, ?_⟩
  · exact congrArg (layer :: ·) hlayers
  · exact congrArg (fresh :: ·) hmarks
  · exact congrArg (· + 1) hlength

/-- **An operation that uses no handle and touches no scope keeps the invariant.** -/
theorem plain (h : q.Inside p mark written) {op : Operation σ} (hop : op.IsPlain) (host : σ)
    (fresh : Nat) :
    (q.after op host fresh).Inside p mark (written ++ op.baseWrites) := by
  have hkept {q' : Place} (h : q'.Inside p mark written) : q'.Inside p mark (written ++ []) := by
    rwa [List.append_nil]
  cases op with
  | set key value => exact hkept (h.set key value fresh)
  | setBase key value => exact h.setBase key value fresh
  | push overlay =>
    apply hkept
    rw [after, Operation.after]
    rcases hl : overlay.layer.run host with ⟨err | layer, s⟩
    · rw [Operation.perform_push_of_error hl]
      exact h.of_pushed rfl rfl rfl fresh
    · rw [Operation.perform_push_of_ok hl]
      exact h.pushed layer fresh
  | clearCache | splice | hostActs =>
    apply hkept
    rw [after]
    refine h.of_pushed ?_ ?_ ?_ fresh <;> rfl
  | pop | enter | leave => exact hop.elim

/-- A handle whose layer is there pops a layer inside the scope, or none. The layer of the scope is
not its own. -/
theorem pop (h : q.Inside p mark written) {i fresh : Nat} (hq : q.Sound i fresh) {t : Ticket}
    {places : List Place} (ht : t.Sound places fresh) (hplace : places[i]? = some q)
    (hkeeps : t.owner = i → t.mark ∈ q.marks) (hmark : t.mark ≠ mark) (host : σ) :
    (q.after (.pop t.handle) host fresh).Inside p mark written := by
  rw [after, Operation.after]
  cases hp : q.context.pop t.handle with
  | error err =>
    rw [Operation.perform_pop_of_error hp]
    exact h.of_pushed rfl rfl rfl fresh
  | ok c =>
    rw [Operation.perform_pop_of_ok hp]
    obtain ⟨hid, hdepth, -, rfl⟩ := Context.pop_eq_ok.1 hp
    rw [ht.handle] at hid hdepth
    dsimp only at hid hdepth
    have howner : t.owner = i := hid.trans hq.id
    -- the layer of the handle is as high as the innermost one, hence it is that
    obtain ⟨above, below, hsplit, hheight⟩ := ht.position q (howner ▸ hplace) (hkeeps howner)
    have hlength := hq.length
    have habove : above = [] := by
      rw [hsplit, List.length_append, List.length_cons] at hlength
      exact List.eq_nil_of_length_eq_zero (by omega)
    obtain ⟨inner, layer, marks, hlayers, hmarks, hinner⟩ := h.layers
    rw [habove, List.nil_append, hmarks] at hsplit
    obtain ⟨marks, rfl⟩ : ∃ marks', marks = t.mark :: marks' := by
      cases marks with
      | nil => exact absurd (List.cons.inj hsplit).1.symm hmark
      | cons first marks' => exact ⟨marks', congrArg (· :: marks') (List.cons.inj hsplit).1⟩
    obtain ⟨first, inner, rfl⟩ := List.exists_cons_of_length_eq_add_one hinner.symm
    have hafter : q.context.pushed.tail = inner ++ layer :: p.context.pushed := by
      rw [hlayers]
      rfl
    have hbefore : q.context.depth = (inner ++ layer :: p.context.pushed).length + 1 :=
      congrArg List.length hlayers
    refine ⟨h.id, h.base, h.scopes, inner, layer, marks, hafter, ?_, Nat.succ.inj hinner⟩
    change World.remark fresh q.context.depth q.context.pushed.tail.length q.marks = _
    rw [World.remark, hafter, hbefore, if_neg (by omega), Nat.add_sub_cancel_left,
      List.drop_one, hmarks]
    rfl

/-- A context is inside a scope as soon as it is entered. -/
theorem enter {overlay : Overlay σ} {layer : Table} {host : σ}
    (hpush : (overlay.layer.run host).1 = .ok layer) (p : Place) (fresh : Nat) :
    (p.after (.enter overlay) host fresh).Inside p fresh [] := by
  rw [after, Operation.after]
  rcases hl : overlay.layer.run host with ⟨_ | layer', s⟩
  · rw [hl] at hpush
    cases hpush
  · rw [Operation.perform_enter_of_ok hl]
    refine ⟨rfl, rfl, rfl, [], layer', [], rfl, ?_, rfl⟩
    exact remark_succ ..

/-- **A scope that is left puts back what was there.** -/
theorem leave (h : q.Inside p mark written) (host : σ) (fresh : Nat) :
    q.after .leave host fresh =
      ⟨⟨{ p.context with base := p.context.base.write written, cache := ∅ },
        p.scopes⟩, p.marks⟩ := by
  obtain ⟨inner, layer, marks, hlayers, hmarks, hlength⟩ := h.layers
  have hdepth : q.context.depth = inner.length + 1 + p.context.depth := by
    rw [Context.depth, hlayers, List.length_append, List.length_cons, Context.depth]
    omega
  have hpushed : q.context.pushed.drop (q.context.depth + 1 - (p.context.depth + 1)) =
      p.context.pushed := by
    rw [hlayers, hdepth, Nat.add_sub_add_right, Nat.add_sub_cancel, List.drop_length_add_append]
    rfl
  have hcontext : q.context.leave (p.context.depth + 1) =
      { p.context with base := p.context.base.write written, cache := ∅ } := by
    rw [Context.leave, if_pos (by omega), hpushed, h.id, h.base]
  have hremark : World.remark fresh q.context.depth p.context.depth q.marks = p.marks := by
    rw [World.remark, if_neg (by omega), hdepth, Nat.add_sub_cancel, ← hlength, hmarks,
      List.drop_length_add_append]
    rfl
  rw [after, Operation.after, Operation.perform_leave_cons h.scopes]
  dsimp only
  rw [hcontext, ← hremark]
  rfl

end Inside
end Place

namespace World

/-! ## Worlds -/

variable {w w' w'' : World σ} {i : Nat} {p q : Place} {mark : Nat} {written : List (String × Value)}

theorem places_act (hp : w.places[i]? = some p) (op : Operation σ) :
    (w.act i op).places[i]? = some (p.after op w.host w.fresh) := by
  rw [act, hp]
  exact List.getElem?_set_self (List.getElem?_eq_some_iff.1 hp).1

/-- More marks are in use, and handles are new only if their marks are. -/
structure Grows (w w' : World σ) : Prop where
  fresh : w.fresh ≤ w'.fresh
  tickets : ∀ t ∈ w'.tickets, t ∈ w.tickets ∨ w.fresh ≤ t.mark

theorem Grows.refl (w : World σ) : w.Grows w := ⟨Nat.le_refl _, fun _ => .inl⟩

theorem Grows.trans (h : w.Grows w') (h' : w'.Grows w'') : w.Grows w'' where
  fresh := Nat.le_trans h.fresh h'.fresh
  tickets t ht := by
    rcases h'.tickets t ht with ht | ht
    · exact h.tickets t ht
    · exact .inr (Nat.le_trans h.fresh ht)

theorem act_grows (w : World σ) (i : Nat) (op : Operation σ) : w.Grows (w.act i op) := by
  unfold act
  split
  · exact .refl w
  · refine ⟨Nat.le_succ _, fun t ht => ?_⟩
    rcases List.mem_append.1 ht with ht | ht
    · split at ht
      · cases List.mem_singleton.1 ht
        exact .inr (Nat.le_refl _)
      · cases ht
    · exact .inl ht

theorem use_grows {before after : List Ticket} {t : Ticket} (ht : w.tickets = before ++ t :: after)
    (i : Nat) (op : Operation σ) : w.Grows ({ w with tickets := before ++ after }.act i op) := by
  have hused : w.Grows { w with tickets := before ++ after } := by
    refine ⟨Nat.le_refl _, fun t ht' => .inl ?_⟩
    rw [ht]
    exact List.mem_append.2 ((List.mem_append.1 ht').imp_right (List.mem_cons_of_mem _))
  exact hused.trans (act_grows ..)

theorem Step.grows (h : Step w w') : w.Grows w' := by
  cases h with
  | create empty => exact ⟨Nat.le_refl _, fun _ => .inl⟩
  | act i op => exact act_grows w i op
  | pop i h => exact use_grows h i _

theorem Body.grows (h : Body i w written w') : w.Grows w' := by
  induction h with
  | nil w => exact .refl w
  | act _ op _ ih => exact ih.trans (act_grows _ i op)
  | pop _ ht _ ih => exact ih.trans (use_grows ht i _)
  | scope _ _ _ ih ihinner => exact ih.trans ((act_grows ..).trans (ihinner.trans (act_grows ..)))
  | refused _ _ ih => exact ih.trans (act_grows ..)
  | elsewhere _ hs _ ih => exact ih.trans hs.grows

/-- A context is inside a scope, and no handle is that of the layer of the scope. -/
structure InScope (w : World σ) (i : Nat) (p : Place) (mark : Nat)
    (written : List (String × Value)) : Prop where
  sound : w.Sound
  lt : mark < w.fresh
  unowned : ∀ t ∈ w.tickets, t.mark ≠ mark
  place : ∃ q, w.places[i]? = some q ∧ q.Inside p mark written

theorem InScope.of_grows (h : w.InScope i p mark written) (hg : w.Grows w') (hs : w'.Sound)
    {more : List (String × Value)} (hplace : ∃ q, w'.places[i]? = some q ∧ q.Inside p mark more) :
    w'.InScope i p mark more where
  sound := hs
  lt := Nat.lt_of_lt_of_le h.lt hg.fresh
  unowned t ht := by
    rcases hg.tickets t ht with ht | ht
    · exact h.unowned t ht
    · exact Nat.ne_of_gt (Nat.lt_of_lt_of_le h.lt ht)
  place := hplace

/-- No handle is given for the layer of a scope. -/
theorem tickets_enter (w : World σ) (i : Nat) (overlay : Overlay σ) :
    (w.act i (.enter overlay)).tickets = w.tickets := by
  unfold act
  split
  · rfl
  · next p _ =>
    rcases hl : overlay.layer.run w.host with ⟨err | layer, s⟩
    · rw [Operation.perform_enter_of_error (m := ⟨p.toSite, w.host⟩) hl]
      rfl
    · rw [Operation.perform_enter_of_ok (m := ⟨p.toSite, w.host⟩) hl]
      rfl

theorem enter_inScope (hw : w.Sound) (hp : w.places[i]? = some p) {overlay : Overlay σ}
    {layer : Table} (hpush : (overlay.layer.run w.host).1 = .ok layer) :
    (w.act i (.enter overlay)).InScope i p w.fresh [] := by
  refine ⟨act_sound hw i _, ?_, fun t ht => ?_, _, places_act hp _, .enter hpush p w.fresh⟩
  · rw [act, hp]
    exact Nat.lt_succ_self _
  · rw [tickets_enter] at ht
    exact Nat.ne_of_lt (hw.tickets t ht).lt

/-- **Whatever happens in the body of a scope keeps `InScope`.** -/
theorem Body.inScope (h : Body i w written w') (hw : w.InScope i p mark []) :
    w'.InScope i p mark written := by
  induction h generalizing p mark with
  | nil => exact hw
  | act _ op hop ih =>
    have hin := ih hw
    obtain ⟨q, hq, hinside⟩ := hin.place
    exact hin.of_grows (act_grows ..) (act_sound hin.sound i op)
      ⟨_, places_act hq op, hinside.plain hop ..⟩
  | @pop w w' written _ before after t ht hkeeps ih =>
    have hin := ih hw
    obtain ⟨q, hq, hinside⟩ := hin.place
    have hmem : t ∈ w'.tickets := ht ▸ List.mem_append_right before List.mem_cons_self
    have hless : Sound { w' with tickets := before ++ after } := by
      refine hin.sound.of_tickets fun t' ht' => ?_
      rw [ht]
      exact List.mem_append.2 ((List.mem_append.1 ht').imp_right (List.mem_cons_of_mem _))
    have hmark : t.owner = i → t.mark ∈ q.marks := by
      intro howner
      obtain ⟨q', hq', hmark⟩ := hkeeps howner
      rw [howner, hq] at hq'
      cases hq'
      exact hmark
    have hplace := places_act (w := { w' with tickets := before ++ after }) hq (.pop t.handle)
    refine hin.of_grows (use_grows ht i _) (act_sound hless i _) ⟨_, hplace, ?_⟩
    exact hinside.pop (hin.sound.places i q hq) (hin.sound.tickets t hmem) hq hmark
      (hin.unowned t hmem) _
  | @scope w w' w'' written inner _ overlay layer hpush hinner ih ihinner =>
    have hin := ih hw
    obtain ⟨q, hq, hinside⟩ := hin.place
    -- the scope inside puts back what it found, so that it has written in the base and no more
    have hinner' := ihinner (enter_inScope hin.sound hq hpush)
    obtain ⟨q', hq', hinside'⟩ := hinner'.place
    have hgrows : w'.Grows (w''.act i .leave) :=
      (act_grows ..).trans (hinner.grows.trans (act_grows ..))
    refine hin.of_grows hgrows (act_sound hinner'.sound i _) ⟨_, places_act hq' _, ?_⟩
    rw [hinside'.leave]
    refine ⟨hinside.id, ?_, hinside.scopes, hinside.layers⟩
    rw [Table.write_append, ← hinside.base]
  | @refused w w' written _ overlay err hpush ih =>
    have hin := ih hw
    obtain ⟨q, hq, hinside⟩ := hin.place
    refine hin.of_grows (act_grows ..) (act_sound hin.sound i _) ⟨_, places_act hq _, ?_⟩
    rw [Place.after, Operation.after]
    rcases hl : overlay.layer.run w'.host with ⟨err' | layer, s⟩
    · rw [Operation.perform_enter_of_error hl]
      exact hinside.of_pushed rfl rfl rfl w'.fresh
    · rw [hl] at hpush
      cases hpush
  | elsewhere _ hs hplace ih =>
    have hin := ih hw
    exact hin.of_grows hs.grows (hs.sound hin.sound) (hplace ▸ hin.place)

/-- **What a scope puts back.** In every world that operations lead to, take a scope that is entered
with an overlay which makes a layer, and whatever is done in it (`Body`), with no handle whose own
layer is gone. When it is left, the context has the layers above the base, the open scopes and the
marks that it had when it was entered, and nothing in its cache. Its base has got what was written
in it by name, and has what it had under all other keys. -/
theorem leave_restores {host : σ} {w w' : World σ} (hw : Reachable host w) {i : Nat} {p : Place}
    (hp : w.places[i]? = some p) {overlay : Overlay σ} {layer : Table}
    (hpush : (overlay.layer.run w.host).1 = .ok layer) {written : List (String × Value)}
    (hbody : Body i (w.act i (.enter overlay)) written w') :
    (w'.act i .leave).places[i]? =
      some ⟨⟨{ p.context with base := p.context.base.write written, cache := ∅ },
        p.scopes⟩, p.marks⟩ ∧
    ∀ key, (∀ entry ∈ written, upperCase entry.1 ≠ key) →
      (p.context.base.write written).get? key = p.context.base.get? key := by
  refine ⟨?_, fun key => Table.get?_write_of_ne⟩
  obtain ⟨q, hq, hinside⟩ := (hbody.inScope (enter_inScope hw.sound hp hpush)).place
  rw [places_act hq, hinside.leave]

/-- A context with one layer, whose handle was not used yet. -/
def layered : World Unit := ((start ()).create true).act 0 (.push [])

/-- Two layers are pushed and stay, one of them in a scope inside, the base is written, and the
handle of the outer layer is refused. -/
theorem leave_restores_layered :
    Reachable () layered ∧ layered.places[0]? = some ⟨⟨⟨0, ∅, [∅], ∅⟩, []⟩, [0]⟩ ∧
      ∃ w' : World Unit, Body 0 (layered.act 0 (.enter [.set "a" (.int 1)])) [("k", .int 7)] w' ∧
        (w'.act 0 .leave).places[0]? =
          some ⟨⟨⟨0, Table.write ∅ [("k", .int 7)], [∅], ∅⟩, []⟩, [0]⟩ := by
  have hw : Reachable () layered :=
    .step (.step .start (.create _ true)) (.act _ 0 (.push []) nofun)
  have hp : layered.places[0]? = some ⟨⟨⟨0, ∅, [∅], ∅⟩, []⟩, [0]⟩ := rfl
  have hpush : (Overlay.layer [.set "a" (.int 1)] |>.run layered.host).1 =
      .ok (Table.insert ∅ "A" (.int 1)) := rfl
  have hopen := (Body.nil (i := 0) (layered.act 0 (.enter [.set "a" (.int 1)]))).act
    (.push []) trivial
  have hbase := hopen.act (.setBase "k" (.int 7)) trivial
  -- the handle of the layer pushed inside is kept, that of the layer below the scope is tried
  let w := (((layered.act 0 (.enter [.set "a" (.int 1)])).act 0 (.push [])).act 0
    (.setBase "k" (.int 7)))
  have htickets : w.tickets = [⟨⟨0, 3⟩, 0, 2, 3⟩] ++ ⟨⟨0, 1⟩, 0, 0, 1⟩ :: [] := rfl
  have hrefused := hbase.pop htickets fun _ => ⟨_, rfl, by decide⟩
  have hinner : ((Overlay.layer ([] : Overlay Unit)).run ()).1 = .ok ∅ := rfl
  have hnested := hrefused.scope hinner ((Body.nil _).act (.push []) trivial)
  exact ⟨hw, hp, _, hnested, (leave_restores hw hp hpush hnested).1⟩

end World
end Interpolation
