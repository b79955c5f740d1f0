import Interpolation.Proofs.Context.Operation

/-!
# Handles and the layers they were given for

A handle says which context it is of and how high the stack of layers was then, not which layer it
was given for. Here every layer that is pushed gets a mark, different from all others, and every
handle is kept together with the mark of its layer, so that a layer which is gone can be told from
one in its place.

In every world that operations lead to, a handle pops the innermost layer of a context exactly if
that context gave it and the layer is its own, or if its own layer is gone and the stack is as high
as it was then (`World.pop_iff`). The second happens: a layer goes with the scope that it was pushed
in, and its handle stays about (`World.not_pop_iff_innermost`).
-/

namespace Interpolation

variable {σ : Type}

/-- A context with its open scopes, and the `marks` of its layers, innermost first. -/
structure Place extends Site where
  marks : List Nat

/-- A handle that was given: by which context, for the layer with which mark, and how high the stack
was then. -/
structure Ticket where
  handle : Handle
  owner : Nat
  mark : Nat
  height : Nat

/-- Contexts by their numbers, and the handles that were not used yet. -/
structure World (σ : Type) where
  places : List Place
  tickets : List Ticket
  /-- No layer has this mark yet. -/
  fresh : Nat
  host : σ

namespace World

/-- The marks of a stack whose height has changed from `before` to `after`. Layers come one at a
time, and the innermost ones go. -/
def remark (fresh before after : Nat) (marks : List Nat) : List Nat :=
  if before < after then fresh :: marks else marks.drop (before - after)

/-- A world without contexts. -/
def start (host : σ) : World σ := ⟨[], [], 0, host⟩

/-- Makes a context, with the builtin functions or without. -/
def create (w : World σ) (empty : Bool) : World σ :=
  let context := if empty then .empty w.places.length else .new w.places.length
  { w with places := w.places ++ [⟨⟨context, []⟩, []⟩] }

/-- An operation on the context with the number `i`. -/
def act (w : World σ) (i : Nat) (op : Operation σ) : World σ :=
  match w.places[i]? with
  | none => w
  | some p =>
    let (answer, m) := op.perform ⟨p.toSite, w.host⟩
    let given := match answer with
      | .ok (some handle) => [⟨handle, i, w.fresh, m.context.depth⟩]
      | _ => []
    { places := w.places.set i ⟨m.toSite, remark w.fresh p.context.depth m.context.depth p.marks⟩
      tickets := given ++ w.tickets
      fresh := w.fresh + 1
      host := m.host }

/-- What can happen in a world. A handle is used once, whether or not it is refused. -/
inductive Step : World σ → World σ → Prop where
  | create (w : World σ) (empty : Bool) : Step w (w.create empty)
  | act (w : World σ) (i : Nat) (op : Operation σ) (h : ∀ handle, op ≠ .pop handle) :
    Step w (w.act i op)
  | pop (w : World σ) (i : Nat) {before after : List Ticket} {t : Ticket}
    (h : w.tickets = before ++ t :: after) :
    Step w ({ w with tickets := before ++ after }.act i (.pop t.handle))

/-- The worlds that operations lead to. -/
inductive Reachable (host : σ) : World σ → Prop where
  | start : Reachable host (start host)
  | step {w w' : World σ} (h : Reachable host w) (hs : Step w w') : Reachable host w'

end World

/-- The marks of a context fit its layers, and tell them apart. -/
structure Place.Sound (p : Place) (i fresh : Nat) : Prop where
  id : p.context.id = i
  length : p.marks.length = p.context.depth
  nodup : p.marks.Nodup
  lt : ∀ mark ∈ p.marks, mark < fresh

/-- If the layer of a handle is still there, it is where the handle says. -/
structure Ticket.Sound (t : Ticket) (places : List Place) (fresh : Nat) : Prop where
  handle : t.handle = ⟨t.owner, t.height⟩
  height : t.height ≠ 0
  lt : t.mark < fresh
  position : ∀ p, places[t.owner]? = some p → t.mark ∈ p.marks →
    ∃ inner outer, p.marks = inner ++ t.mark :: outer ∧ outer.length + 1 = t.height

/-- **The invariant** of a world: every place and every ticket in it is sound. -/
structure World.Sound (w : World σ) : Prop where
  places : ∀ (i : Nat) (p : Place), w.places[i]? = some p → p.Sound i w.fresh
  tickets : ∀ t ∈ w.tickets, t.Sound w.places w.fresh

namespace World

/-- `remark` puts a fresh mark on the others, or takes the innermost marks off. -/
theorem remark_cases {marks : List Nat} {before after : Nat} (fresh : Nat)
    (hlen : marks.length = before) (h : after = before + 1 ∨ after ≤ before) :
    (remark fresh before after marks).length = after ∧
      (after = before + 1 → remark fresh before after marks = fresh :: marks) ∧
      (remark fresh before after marks = fresh :: marks ∨
        ∃ n, remark fresh before after marks = marks.drop n) := by
  unfold remark
  split
  · exact ⟨by simp; omega, fun _ => rfl, .inl rfl⟩
  · exact ⟨by simp; omega, by omega, .inr ⟨_, rfl⟩⟩

/-- A mark that is still there after the innermost ones were taken off was not among them. -/
theorem position_drop {marks inner outer : List Nat} {mark : Nat} (n : Nat) (hnodup : marks.Nodup)
    (h : marks = inner ++ mark :: outer) (hmem : mark ∈ marks.drop n) :
    ∃ inner', marks.drop n = inner' ++ mark :: outer := by
  subst h
  rw [List.drop_append] at hmem ⊢
  by_cases hn : n ≤ inner.length
  · exact ⟨inner.drop n, by rw [Nat.sub_eq_zero_of_le hn, List.drop_zero]⟩
  · obtain ⟨k, hk⟩ : ∃ k, n - inner.length = k + 1 := ⟨n - inner.length - 1, by omega⟩
    rw [List.drop_of_length_le (by omega), hk, List.drop_succ_cons, List.nil_append] at hmem
    have houter : mark ∉ outer := (List.nodup_cons.1 (List.nodup_append.1 hnodup).2.1).1
    exact absurd (List.mem_of_mem_drop hmem) houter

theorem start_sound (host : σ) : (start host).Sound where
  places := by simp [start]
  tickets := by simp [start]

theorem create_sound {w : World σ} (hw : w.Sound) (empty : Bool) : (w.create empty).Sound where
  places i p hp := by
    rw [create, List.getElem?_append] at hp
    split at hp
    · exact hw.places i p hp
    · next hi =>
      obtain ⟨rfl, rfl⟩ : i = w.places.length ∧ _ = p := by
        cases hj : i - w.places.length with
        | zero =>
          rw [hj] at hp
          exact ⟨by omega, Option.some.inj hp⟩
        | succ j =>
          rw [hj] at hp
          exact absurd hp nofun
      cases empty <;> exact ⟨rfl, rfl, .nil, nofun⟩
  tickets t ht :=
    { handle := (hw.tickets t ht).handle
      height := (hw.tickets t ht).height
      lt := (hw.tickets t ht).lt
      position := by
        intro p hp hmem
        rw [create, List.getElem?_append] at hp
        split at hp
        · exact (hw.tickets t ht).position p hp hmem
        · -- a new context has no layers yet
          obtain ⟨j, rfl⟩ : ∃ j, j = t.owner - w.places.length := ⟨_, rfl⟩
          rw [List.getElem?_singleton] at hp
          split at hp
          · cases hp
            exact absurd hmem nofun
          · exact absurd hp nofun }

/-- A world with fewer handles is as sound. -/
theorem Sound.of_tickets {w : World σ} (hw : w.Sound) {tickets : List Ticket}
    (h : ∀ t ∈ tickets, t ∈ w.tickets) : Sound { w with tickets } where
  places := hw.places
  tickets t ht := hw.tickets t (h t ht)

section
variable {p q : Place} {i fresh : Nat} (hp : p.Sound i fresh)
  (hmarks : q.marks = fresh :: p.marks ∨ ∃ n, q.marks = p.marks.drop n)
include hp hmarks

theorem place_sound (hid : q.context.id = p.context.id) (hlen : q.marks.length = q.context.depth) :
    q.Sound i (fresh + 1) where
  id := hid.trans hp.id
  length := hlen
  nodup := by
    rcases hmarks with h | ⟨n, h⟩
    · rw [h]
      exact List.nodup_cons.2 ⟨fun hmem => Nat.lt_irrefl _ (hp.lt _ hmem), hp.nodup⟩
    · rw [h]
      exact hp.nodup.sublist (List.drop_sublist ..)
  lt mark hmem := by
    rcases hmarks with h | ⟨n, h⟩
    · rw [h] at hmem
      rcases List.mem_cons.1 hmem with rfl | hmem
      · exact Nat.lt_succ_self _
      · exact Nat.lt_succ_of_lt (hp.lt mark hmem)
    · rw [h] at hmem
      exact Nat.lt_succ_of_lt (hp.lt mark (List.mem_of_mem_drop hmem))

theorem ticket_sound {places : List Place} (hi : places[i]? = some p) {t : Ticket}
    (ht : t.Sound places fresh) :
    t.Sound (places.set i q) (fresh + 1) where
  handle := ht.handle
  height := ht.height
  lt := Nat.lt_succ_of_lt ht.lt
  position p' hp' hmem := by
    rw [List.getElem?_set] at hp'
    split at hp'
    · next howner =>
      split at hp'
      · cases hp'
        have hposition := ht.position p (howner ▸ hi)
        rcases hmarks with h | ⟨n, h⟩
        · rw [h] at hmem ⊢
          have hne : t.mark ≠ fresh := Nat.ne_of_lt ht.lt
          obtain ⟨inner, outer, hsplit, hheight⟩ :=
            hposition ((List.mem_cons.1 hmem).resolve_left hne)
          exact ⟨fresh :: inner, outer, by rw [hsplit, List.cons_append], hheight⟩
        · rw [h] at hmem ⊢
          obtain ⟨inner, outer, hsplit, hheight⟩ := hposition (List.mem_of_mem_drop hmem)
          obtain ⟨inner', hsplit'⟩ := position_drop n hp.nodup hsplit hmem
          exact ⟨inner', outer, hsplit', hheight⟩
      · exact absurd hp' nofun
    · exact ht.position p' hp' hmem

end

/-- An operation keeps the invariant, whichever handle it pops by. -/
theorem act_sound {w : World σ} (hw : w.Sound) (i : Nat) (op : Operation σ) :
    (w.act i op).Sound := by
  unfold act
  split
  · exact hw
  · next p hi =>
    have hp := hw.places i p hi
    obtain ⟨hid, hdepth⟩ := op.depth_after ⟨p.toSite, w.host⟩
    have hanswer := @Operation.depth_after_of_answer _ op ⟨p.toSite, w.host⟩
    unfold Operation.after at hid hdepth hanswer
    generalize op.perform ⟨p.toSite, w.host⟩ = r at hid hdepth hanswer
    obtain ⟨answer, m⟩ := r
    dsimp only at hid hdepth hanswer ⊢
    obtain ⟨hlen, hgrown, hmarks⟩ := remark_cases w.fresh hp.length hdepth
    generalize remark w.fresh p.context.depth m.context.depth p.marks = marks at hlen hgrown hmarks
    refine ⟨fun j p' hp' => ?_, fun t ht => ?_⟩
    · dsimp only at hp' ⊢
      rw [List.getElem?_set] at hp'
      split at hp'
      · next hj =>
        split at hp'
        · cases hp'
          exact hj ▸ place_sound hp hmarks hid hlen
        · exact absurd hp' nofun
      · have := hw.places j p' hp'
        exact { this with lt := fun mark hmem => Nat.lt_succ_of_lt (this.lt mark hmem) }
    · rcases List.mem_append.1 ht with ht | ht
      · split at ht
        · next handle =>
          obtain ⟨rfl, hd⟩ := hanswer rfl
          cases List.mem_singleton.1 ht
          refine ⟨?_, ?_, Nat.lt_succ_self _, ?_⟩
          · rw [← hd, hp.id]
          · rw [hd]
            exact Nat.succ_ne_zero _
          · intro p' hp' _
            rw [List.getElem?_set_self (List.getElem?_eq_some_iff.1 hi).1] at hp'
            cases hp'
            exact ⟨[], p.marks, hgrown hd, by rw [hp.length, hd]⟩
        · exact absurd ht nofun
      · exact ticket_sound hp hmarks hi (hw.tickets t ht)

theorem Step.sound {w w' : World σ} (h : Step w w') (hw : w.Sound) : w'.Sound := by
  cases h with
  | create empty => exact create_sound hw empty
  | act i op => exact act_sound hw i op
  | pop i h =>
    refine act_sound (hw.of_tickets fun t ht => ?_) i _
    rw [h]
    exact List.mem_append.2 ((List.mem_append.1 ht).imp_right (List.mem_cons_of_mem _))

theorem Reachable.sound {host : σ} {w : World σ} (h : Reachable host w) : w.Sound := by
  induction h with
  | start => exact start_sound host
  | step _ hs ih => exact hs.sound ih

/-- **What a handle pops.** In every world that operations lead to (`Reachable`), a handle which was
not used yet pops a layer of a context exactly if that context gave it and either its own layer is
the innermost one, or its own layer is gone and the stack is as high as it was with that layer.
Otherwise the handle is refused and the context stays as it is. -/
theorem pop_iff {host : σ} {w : World σ} (hw : Reachable host w) {t : Ticket} (ht : t ∈ w.tickets)
    {i : Nat} {p : Place} (hp : w.places[i]? = some p) :
    ((∃ c, p.context.pop t.handle = .ok c) ↔
      t.owner = i ∧ (p.marks.head? = some t.mark ∨ t.mark ∉ p.marks ∧ p.context.depth = t.height)) ∧
    ∀ err, p.context.pop t.handle = .error err →
      err.kind = .cacheInconsistency ∧
        (Operation.pop t.handle).perform ⟨p.toSite, w.host⟩ = (.error err, ⟨p.toSite, w.host⟩) := by
  have hplace := hw.sound.places i p hp
  have hticket := hw.sound.tickets t ht
  refine ⟨?_, fun err herr => ⟨Context.kind_of_pop herr, Operation.perform_pop_of_error herr⟩⟩
  have hpop : (∃ c, p.context.pop t.handle = .ok c) ↔ t.owner = i ∧ t.height = p.context.depth := by
    simp only [Context.pop_eq_ok, hticket.handle, hplace.id]
    refine ⟨fun ⟨_, hid, hd, _⟩ => ⟨hid, hd⟩,
      fun ⟨hid, hd⟩ => ⟨_, hid, hd, hd ▸ hticket.height, rfl⟩⟩
  rw [hpop]
  refine and_congr_right fun howner => ?_
  by_cases hmem : t.mark ∈ p.marks
  · obtain ⟨inner, outer, hsplit, hheight⟩ := hticket.position p (howner ▸ hp) hmem
    have hlen := hplace.length
    have hnodup := hplace.nodup
    rw [hsplit] at hlen hnodup ⊢
    cases inner with
    | nil =>
      have hd : t.height = p.context.depth := by
        rw [← hheight, ← hlen]
        rfl
      simp [hd]
    | cons mark inner =>
      have hne : mark ≠ t.mark := by
        rintro rfl
        simp at hnodup
      have hd : t.height ≠ p.context.depth := by
        simp only [List.cons_append, List.length_cons, List.length_append] at hlen
        omega
      simp [hne, hd]
  · have hhead : p.marks.head? ≠ some t.mark := fun h => hmem (List.mem_of_head? h)
    simp [hmem, hhead, eq_comm]

/-- A layer pushed in a scope has gone with it, and two layers were pushed since. -/
def stale : World Unit :=
  ((((((start ()).create true).act 0 (.enter [])).act 0 (.push [])).act 0 .leave).act 0
    (.push [])).act 0 (.push [])

theorem stale_reachable : Reachable () stale :=
  .step (.step (.step (.step (.step (.step .start (.create _ true)) (.act _ 0 (.enter []) nofun))
    (.act _ 0 (.push []) nofun)) (.act _ 0 .leave nofun)) (.act _ 0 (.push []) nofun))
      (.act _ 0 (.push []) nofun)

/-- The handle of the layer that has gone, and the context. -/
theorem stale_eq :
    ⟨⟨0, 2⟩, 0, 1, 2⟩ ∈ stale.tickets ∧ stale.places[0]? = some ⟨⟨⟨0, ∅, [∅, ∅], ∅⟩, []⟩, [4, 3]⟩ :=
  ⟨.tail _ (.tail _ (.head _)), rfl⟩

theorem pop_iff_stale :
    Reachable () stale ∧ ⟨⟨0, 2⟩, 0, 1, 2⟩ ∈ stale.tickets ∧
      stale.places[0]? = some ⟨⟨⟨0, ∅, [∅, ∅], ∅⟩, []⟩, [4, 3]⟩ ∧
      ∃ c, (⟨0, ∅, [∅, ∅], ∅⟩ : Context).pop ⟨0, 2⟩ = .ok c :=
  ⟨stale_reachable, stale_eq.1, stale_eq.2,
    (pop_iff stale_reachable stale_eq.1 stale_eq.2).1.2 ⟨rfl, .inr ⟨by decide, rfl⟩⟩⟩

/-- It is not so that a handle pops its own layer alone. A stale one pops a layer which is as high
as its own was. -/
theorem not_pop_iff_innermost :
    ¬ ∀ w : World Unit, Reachable () w → ∀ t ∈ w.tickets, ∀ i p, w.places[i]? = some p →
      ((∃ c, p.context.pop t.handle = .ok c) ↔ t.owner = i ∧ p.marks.head? = some t.mark) := by
  intro h
  have hpop := h stale stale_reachable _ stale_eq.1 0 _ stale_eq.2
  exact absurd (hpop.1 ⟨_, rfl⟩).2 (by decide)

end World
end Interpolation
