import Interpolation.Proofs.Context.History
import Interpolation.Proofs.Extraction.Pieces

/-!
# How often sigils are resolved

As long as nothing clears a cache and all splicing is cached, the cache is an exact record of the
past: it holds what it held at first, and of every other sigil the first value that it was resolved
to (`Kept.get?_eq`). So no sigil is resolved to a value twice, at whatever level and by whatever
engine it is asked for, and one that has not been resolved to a value is resolved wherever it is met
(`resolved_once`).
-/

namespace Interpolation

variable {σ : Type}

/-- The value that a sigil is resolved to in an event: it is asked for, no value is kept of it, and
it has one. -/
def Event.resolved? (sigil : String) : Event σ → Option Value
  | .asked e s m =>
    if s = sigil ∧ (e.kept? s m.context.cache).isNone then
      ((e.resolve m.context.get? s).run m.host).1.toOption
    else none
  | .did .. => none

/-- What is kept of sigils before some events and after them. Only questions (`Event.asked`) change
it, and all of them are cached. -/
inductive Kept : Table → List (Event σ) → Table → Prop where
  | nil (cache : Table) : Kept cache [] cache
  | asked {cache cache' : Table} {e : Engine σ} {sigil : String} {m : Moment σ}
    {events : List (Event σ)} (hm : m.context.cache = cache) (he : e.caching = true)
    (hs : Kept (Event.asked e sigil m).after.context.cache events cache') :
    Kept cache (.asked e sigil m :: events) cache'
  | did {cache cache' : Table} {op : Operation σ} {m : Moment σ} {events : List (Event σ)}
    (hs : Kept cache events cache') : Kept cache (.did op m :: events) cache'

/-! ## The record -/

/-- A question puts the value that the sigil is resolved to into the cache, and nothing else. -/
theorem Event.get?_after_asked {e : Engine σ} (he : e.caching = true) (s : String) (m : Moment σ)
    (sigil : String) :
    (Event.asked e s m).after.context.cache.get? sigil =
      (m.context.cache.get? sigil).or ((Event.asked e s m).resolved? sigil) := by
  rw [after, resolved?]
  cases hk : e.kept? s m.context.cache with
  | some v =>
    rw [Engine.run_value_of_kept hk, if_neg (by simp), Option.or_none]
    rfl
  | none =>
    have hnew : m.context.cache.get? s = none := by
      rwa [Engine.kept?, if_pos he] at hk
    rcases hr : (e.resolve m.context.get? s).run m.host with ⟨err | v, host⟩
    · rw [Engine.run_value_of_error hk hr]
      split <;> exact (Option.or_none ..).symm
    · rw [Engine.run_value_of_ok hk hr, Engine.keep, if_pos he, Moment.during, Table.get?_insert]
      by_cases hs : s = sigil
      · subst hs
        rw [if_pos rfl, if_pos ⟨rfl, rfl⟩, hnew]
        rfl
      · rw [if_neg (Ne.symm hs), if_neg fun h => hs h.1, Option.or_none]

namespace Kept

variable {cache cache' : Table} {events later : List (Event σ)} {sigil : String}

theorem append {cache'' : Table} (h : Kept cache events cache') (h' : Kept cache' later cache'') :
    Kept cache (events ++ later) cache'' := by
  induction h with
  | nil => exact h'
  | asked hm he _ ih => exact .asked hm he (ih h')
  | did _ ih => exact .did (ih h')

theorem split (h : Kept cache (events ++ later) cache') :
    ∃ between, Kept cache events between ∧ Kept between later cache' := by
  induction events generalizing cache with
  | nil => exact ⟨cache, .nil cache, h⟩
  | cons event events ih =>
    cases h with
    | asked hm he hs =>
      obtain ⟨between, hbefore, hafter⟩ := ih hs
      exact ⟨between, .asked hm he hbefore, hafter⟩
    | did hs =>
      obtain ⟨between, hbefore, hafter⟩ := ih hs
      exact ⟨between, .did hbefore, hafter⟩

/-- **The cache is a record of the past**: beside what it held at first it holds the first values
that sigils were resolved to (`Event.resolved?`). -/
theorem get?_eq (h : Kept cache events cache') (sigil : String) :
    cache'.get? sigil = (cache.get? sigil).or (events.findSome? (·.resolved? sigil)) := by
  induction h with
  | nil => exact (Option.or_none ..).symm
  | @asked _ _ e s m events hm he _ ih =>
    rw [ih, Event.get?_after_asked he, hm, Option.or_assoc, List.findSome?_cons]
    cases (Event.asked e s m).resolved? sigil <;> rfl
  | did _ ih => exact ih

/-- A sigil of which a value is kept is not resolved any more. -/
theorem resolved?_eq_none (h : Kept cache events cache') (hs : (cache.get? sigil).isSome = true) :
    ∀ event ∈ events, event.resolved? sigil = none := by
  induction h with
  | nil => exact nofun
  | @asked _ _ e s m events hm he _ ih =>
    have hkept : (m.context.cache.get? sigil).isSome = true := hm ▸ hs
    refine List.forall_mem_cons.2 ⟨?_, ih ?_⟩
    · refine if_neg ?_
      rintro ⟨rfl, hnone⟩
      rw [Engine.kept?, if_pos he, Option.isNone_iff_eq_none] at hnone
      rw [hnone] at hkept
      cases hkept
    · rw [Event.get?_after_asked he, Option.isSome_or, hkept]
      rfl
  | did _ ih => exact List.forall_mem_cons.2 ⟨rfl, ih hs⟩

/-- **No sigil is resolved to a value twice.** -/
theorem pairwise (h : Kept cache events cache') :
    events.Pairwise fun a b => ∀ sigil, (a.resolved? sigil).isSome = true →
    b.resolved? sigil = none := by
  induction h with
  | nil => exact .nil
  | @asked _ _ e s m events _ he hs ih =>
    refine .cons (fun event hmem sigil hresolved => hs.resolved?_eq_none ?_ event hmem) ih
    rw [Event.get?_after_asked he, Option.isSome_or, hresolved, Bool.or_true]
  | did _ ih => exact .cons (fun _ _ _ h => nomatch h) ih

/-! ## Runs -/

theorem of_asked {e : Engine σ} (he : e.caching = true) {m : Moment σ} {w w' : Work σ}
    {as : List (Ask σ)} (h : e.Asked m.context.get? w as w') :
    Kept w.cache (as.map fun a => .asked e a.sigil (m.during a.work)) w'.cache := by
  induction h with
  | done hc =>
    rw [hc]
    exact .nil _
  | ask hc _ ih => exact .asked hc he ih

/-- One operation that clears nothing. -/
theorem of_operation (op : Operation σ) (m : Moment σ)
    (hcaching : ∀ e text, op = .splice e text → e.caching = true) (hleave : op ≠ .leave)
    (hclears : ¬ op.Clears m) :
    Kept m.context.cache (op.events m) (op.after m).context.cache := by
  have hdid (hsplice : ∀ e text, op ≠ .splice e text) :
      Kept m.context.cache [.did op m] (op.after m).context.cache := by
    rw [Operation.cache_of_not_clears hclears hleave hsplice]
    exact .did (.nil _)
  cases op with
  | splice e text =>
    have hasked : e.Asked m.context.get? ⟨m.context.cache, m.host⟩ _ _ :=
      Engine.chunks_asked e.maxDepth text ⟨m.context.cache, m.host⟩
    rw [after_splice]
    exact (of_asked (hcaching e text rfl) hasked).append (.did (.nil _))
  | _ => exact hdid nofun

theorem of_history (ops : List (Operation σ)) (m : Moment σ)
    (hcaching : ∀ e text, .splice e text ∈ ops → e.caching = true) (hleave : .leave ∉ ops)
    (hclears : ∀ event ∈ history m ops, ¬ event.Clears) :
    ∃ cache', Kept m.context.cache (history m ops) cache' := by
  induction ops generalizing m with
  | nil => exact ⟨_, .nil _⟩
  | cons op ops ih =>
    obtain ⟨hop, hops⟩ := List.forall_mem_append.1 hclears
    obtain ⟨cache', hlater⟩ := ih (op.after m)
      (fun e text hmem => hcaching e text (List.mem_cons_of_mem _ hmem))
      (fun hmem => hleave (List.mem_cons_of_mem _ hmem)) hops
    have hfirst := of_operation op m (fun e text heq => hcaching e text (heq ▸ List.mem_cons_self))
      (fun heq => hleave (heq ▸ List.mem_cons_self))
        (hop (.did op m) (List.mem_append_right _ List.mem_cons_self))
    exact ⟨cache', hfirst.append hlater⟩

end Kept

/-- Operations that never clear the cache do not clear it in a run. -/
theorem not_clears_of_mem_history {ops : List (Operation σ)} (h : ∀ op ∈ ops, ∀ m, ¬ op.Clears m)
    (m : Moment σ) :
    ∀ event ∈ history m ops, ¬ event.Clears := by
  induction ops generalizing m with
  | nil => exact nofun
  | cons op ops ih =>
    refine List.forall_mem_append.2 ⟨fun event hevent => ?_,
      ih (fun op hop => h op (List.mem_cons_of_mem _ hop)) _⟩
    rcases List.mem_append.1 hevent with hasked | hdid
    · cases op with
      | splice e text =>
        obtain ⟨a, -, rfl⟩ := List.mem_map.1 hasked
        exact id
      | _ => cases hasked
    · cases List.mem_singleton.1 hdid
      exact h op List.mem_cons_self m

/-- What is done in a run happens there, with what it asks for. -/
theorem mem_history_of_did {op : Operation σ} {m m' : Moment σ} {ops : List (Operation σ)}
    (h : .did op m' ∈ history m ops) : ∀ event ∈ op.events m', event ∈ history m ops := by
  induction ops generalizing m with
  | nil => cases h
  | cons first ops ih =>
    rcases List.mem_append.1 h with h | h
    · have heq : Event.did op m' = .did first m := by
        rcases List.mem_append.1 h with h | h
        · cases first with
          | splice e text =>
            obtain ⟨a, -, ha⟩ := List.mem_map.1 h
            cases ha
          | _ => cases h
        · exact List.mem_singleton.1 h
      cases heq
      exact fun event hmem => List.mem_append_left _ hmem
    · exact fun event hmem => List.mem_append_right _ (ih h event hmem)

/-- **A sigil is resolved to a value once.** Take any run on a context in which all texts are
spliced with caching, by whatever engines, while layers neither come nor go and nothing clears the
cache. No sigil is resolved to a value twice. Where a sigil is asked for, the cache has the value
that it had of it at first, or else the first value that the sigil was resolved to, whatever was
written since; if there is such a value, it is the answer, and nothing is changed. If there is none,
the sigil is resolved, again if it failed before; a value is put into the cache, and an error is
not. At whatever level, splicing asks for each sigil that it reaches, and all occurrences of a sigil
there are replaced by what it got then. -/
theorem resolved_once {m : Moment σ} {ops : List (Operation σ)}
    (hcaching : ∀ e text, .splice e text ∈ ops → e.caching = true) (hleave : .leave ∉ ops)
    (hclears : ∀ event ∈ history m ops, ¬ event.Clears) :
    ((history m ops).Pairwise fun a b => ∀ sigil, (a.resolved? sigil).isSome = true →
      b.resolved? sigil = none) ∧
    (∀ (past future : List (Event σ)) (e : Engine σ) (sigil : String) (m' : Moment σ),
      history m ops = past ++ .asked e sigil m' :: future →
      let first? := (m.context.cache.get? sigil).or (past.findSome? (·.resolved? sigil))
      let work : Work σ := ⟨m'.context.cache, m'.host⟩
      m'.context.cache.get? sigil = first? ∧
      (∀ v, first? = some v → (e.value m'.context.get? sigil).run work = (.ok v, work)) ∧
      (first? = none → ∀ s,
        (∀ v, (e.resolve m'.context.get? sigil).run m'.host = (.ok v, s) →
          (e.value m'.context.get? sigil).run work =
            (.ok v, ⟨m'.context.cache.insert sigil v, s⟩)) ∧
        ∀ err, (e.resolve m'.context.get? sigil).run m'.host = (.error err, s) →
          (e.value m'.context.get? sigil).run work = (.error err, ⟨m'.context.cache, s⟩))) ∧
    ∀ (e : Engine σ) (text : String) (m' : Moment σ),
      .did (.splice e text) m' ∈ history m ops → ∀ depth inner w,
      e.Enters m'.context.get? e.maxDepth text ⟨m'.context.cache, m'.host⟩ depth inner w →
      (∀ sigil w', e.Reaches m'.context.get? depth inner w sigil w' →
        .asked e sigil (m'.during w') ∈ history m ops) ∧
      ∀ out w', (e.chunks m'.context.get? depth inner).run w = (.ok out, w') →
        ∃ replace : String → String, out = (e.delimiters.extract inner).fill replace ∧
          ∀ sigil ∈ (e.delimiters.extract inner).sigils, ∃ w₁ w₂,
            e.Reaches m'.context.get? depth inner w sigil w₁ ∧
            (e.replacement m'.context.get? (e.inner? m'.context.get? depth) sigil).run w₁ =
              (.ok (replace sigil), w₂) := by
  obtain ⟨cache', hkept⟩ := Kept.of_history ops m hcaching hleave hclears
  refine ⟨hkept.pairwise, fun past future e sigil m' hsplit => ?_,
    fun e text m' hdid depth inner w henters => ?_⟩
  · rw [hsplit] at hkept
    obtain ⟨between, hpast, hnow⟩ := hkept.split
    cases hnow with
    | asked hm he hlater =>
      have hfirst := hpast.get?_eq sigil
      rw [← hm] at hfirst
      have hkept? : e.kept? sigil m'.context.cache = m'.context.cache.get? sigil := if_pos he
      refine ⟨hfirst, fun v hv => Engine.run_value_of_kept ?_, fun hnone s => ?_⟩
      · rw [hkept?, hfirst]
        exact hv
      · have hnew : e.kept? sigil m'.context.cache = none := by
          rw [hkept?, hfirst]
          exact hnone
        refine ⟨fun v hr => ?_, fun err hr => Engine.run_value_of_error hnew hr⟩
        rw [Engine.run_value_of_ok hnew hr, Engine.keep, if_pos he]
  · refine ⟨fun sigil w' hreaches => ?_, fun out w' hout => Engine.fill_of_chunks hout⟩
    refine mem_history_of_did hdid _ (List.mem_append_left _
      (List.mem_map.2 ⟨⟨sigil, w'⟩, ?_, rfl⟩))
    exact Engine.mem_asks_iff.2 ⟨depth, inner, w, henters, hreaches⟩

/-- A context with one name, and nothing in its cache. -/
def Moment.single : Moment Unit := ⟨⟨⟨0, Table.empty.insert "Y" (.int 1), [], ∅⟩, []⟩, ()⟩

/-- The moment when the one sigil has been resolved, after `Moment.single`. -/
def Moment.kept : Moment Unit :=
  ⟨⟨⟨0, Table.empty.insert "Y" (.int 1), [], Table.empty.insert "[Y]" (.int 1)⟩, []⟩, ()⟩

/-- The moment when the name has been written after that. -/
def Moment.overwritten : Moment Unit :=
  ⟨⟨⟨0, Table.empty.insert "Y" (.int 2), [], Table.empty.insert "[Y]" (.int 1)⟩, []⟩, ()⟩

/-- A name that is written between two splices of it: the second gives the value that it had at
first. -/
theorem resolved_once_overwritten :
    let ops : List (Operation Unit) :=
      [.splice (.new .echo) "[Y]", .setBase "Y" (.int 2), .splice (.new .echo) "[Y]"]
    (∀ e text, .splice e text ∈ ops → e.caching = true) ∧ .leave ∉ ops ∧
      (∀ event ∈ history .single ops, ¬ event.Clears) ∧
      ∃ (past : List (Event Unit)) (m : Moment Unit),
        history .single ops = past ++ .asked (.new .echo) "[Y]" m ::
          [.did (.splice (.new .echo) "[Y]") m] ∧
        m.context.get? "Y" = some (.int 2) ∧
        ((Engine.new Host.echo).value m.context.get? "[Y]").run ⟨m.context.cache, m.host⟩ =
          (.ok (.int 1), ⟨m.context.cache, m.host⟩) := by
  intro ops
  have hformat : ((Engine.new Host.echo).format (.int 1)).run () = (.ok "1", ()) := by cbv
  have hone : (Engine.new Host.echo).delimiters.mayHoldSigil "1" = false := by cbv
  have hsplice {m : Moment Unit} {w : Work Unit}
      (hvalue : ((Engine.new Host.echo).value m.context.get? "[Y]").run ⟨m.context.cache, m.host⟩ =
        (.ok (.int 1), w)) :
      (Operation.splice (.new .echo) "[Y]").events m =
          [.asked (.new .echo) "[Y]" m, .did (.splice (.new .echo) "[Y]") m] ∧
        (Operation.splice (.new .echo) "[Y]").after m = m.during w :=
    Operation.splice_of_sigil (Delimiters.extract_square ['Y'] rfl (by simp) rfl) hvalue rfl hformat
      hone
  obtain ⟨hfirst, (hkept : _ = Moment.kept)⟩ :=
    @hsplice .single ⟨Moment.kept.context.cache, ()⟩ (by cbv)
  have hoverwritten : (Operation.setBase "Y" (.int 2)).after .kept = .overwritten := by cbv
  have hlast := (@hsplice .overwritten ⟨Moment.kept.context.cache, ()⟩ (by cbv)).1
  have hhistory : history .single ops =
      [.asked (.new .echo) "[Y]" .single, .did (.splice (.new .echo) "[Y]") .single,
        .did (.setBase "Y" (.int 2)) .kept] ++
      .asked (.new .echo) "[Y]" .overwritten ::
        [.did (.splice (.new .echo) "[Y]") .overwritten] := by
    rw [history, hfirst, hkept, history, hoverwritten, history, hlast]
    rfl
  have hcaching : ∀ e text, .splice e text ∈ ops → e.caching = true := by
    intro e text hmem
    simp only [ops, List.mem_cons, Operation.splice.injEq, reduceCtorEq, List.not_mem_nil,
      false_or, or_false] at hmem
    rcases hmem with ⟨rfl, -⟩ | ⟨rfl, -⟩ <;> rfl
  have hleave : .leave ∉ ops := by simp [ops]
  have hclears : ∀ event ∈ history .single ops, ¬ event.Clears :=
    not_clears_of_mem_history (by simp [ops, Operation.Clears]) _
  have hask := (resolved_once hcaching hleave hclears).2.1 _ _ _ _ _ hhistory
  exact ⟨hcaching, hleave, hclears, _, .overwritten, hhistory, by cbv, hask.2.1 (.int 1) (by cbv)⟩

end Interpolation
