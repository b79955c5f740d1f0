import Interpolation.Proofs.Context.Entries
import Interpolation.Proofs.Context.Operation
import Mathlib.Data.List.Forall2
import Mathlib.Data.List.ModifyLast

/-!
# The journal of a context

What a context says, by what was written in it. A journal is a stack of logs, one for each layer,
and knows nothing of tables, of uppercase keys or of looking twice. A name stands for what was
written last under it, in the innermost layer where anything was, whatever its case. The context of
any run says the same as the journal of that run (`get?_run`).

The invariant is that each table of the context holds its log (`Refines`), and therefore has no keys
but uppercase ones: only because of that an outer layer that has a name as it is written cannot get
before an inner one that has it in uppercase.
-/

namespace Interpolation

open Text

variable {σ : Type}

/-- What was written in the layers of a context, a `Log` for each, innermost first and the base
last. -/
structure Journal where
  id : Nat
  layers : List Log
  /-- How many layers each open scope was entered with, innermost scope first. -/
  scopes : List Nat

/-- The builtin functions, and the running process, as they were written. -/
def Log.builtins : Log :=
  Log.write ⟨[]⟩ ((Builtin.all.map fun b => (b.name, .func (.builtin b))) ++
    [("SYS", .object .process)])

namespace Journal

/-- A journal with a base alone. -/
def ofBase (id : Nat) (base : Log) : Journal := ⟨id, [base], []⟩

/-- What was written last under the name, in the innermost layer where anything was. -/
def get? (j : Journal) (key : String) : Option Value := j.layers.findSome? (·.last? key)

/-- The journal after an operation, when `host` is the state of the host. What an overlay asks for
it gets in that state, and if it gets no entries there is no layer. -/
def after (j : Journal) (host : σ) : Operation σ → Journal
  | .set key value => { j with layers := j.layers.modifyHead (·.write [(key, value)]) }
  | .setBase key value => { j with layers := j.layers.modifyLast (·.write [(key, value)]) }
  | .push overlay =>
    match (overlay.entries.run host).1 with
    | .ok entries => { j with layers := Log.write ⟨[]⟩ entries :: j.layers }
    | .error _ => j
  | .pop handle =>
    if handle = ⟨j.id, j.layers.length - 1⟩ ∧ 1 < j.layers.length then
      { j with layers := j.layers.tail }
    else j
  | .enter overlay =>
    match (overlay.entries.run host).1 with
    | .ok entries =>
      { j with layers := Log.write ⟨[]⟩ entries :: j.layers, scopes := j.layers.length :: j.scopes }
    | .error _ => j
  | .leave =>
    match j.scopes with
    | [] => j
    | height :: scopes => { j with layers := j.layers.drop (j.layers.length - height), scopes }
  | .clearCache | .splice .. | .hostActs _ => j

/-- The journal of a run from the moment `m` on. -/
def run (j : Journal) (m : Moment σ) : List (Operation σ) → Journal
  | [] => j
  | op :: ops => (j.after m.host op).run (op.after m) ops

end Journal

/-- A context that has just been made, and its journal. -/
inductive Starts : Context → Journal → Prop where
  | empty (id : Nat) : Starts (.empty id) (.ofBase id ⟨[]⟩)
  | new (id : Nat) : Starts (.new id) (.ofBase id .builtins)

/-- **The invariant.** Each table of the context holds its log (`Table.Holds`), and no scope was
entered without a base. -/
structure Refines (m : Moment σ) (j : Journal) : Prop where
  id : m.context.id = j.id
  layers : ∃ logs base, j.layers = logs ++ [base] ∧ List.Forall₂ Table.Holds m.context.pushed logs ∧
    m.context.base.Holds base
  scopes : m.scopes = j.scopes
  pos : ∀ height ∈ j.scopes, 0 < height

/-! ## Lookup -/

section
variable {tables : List Table} {logs : List Log} {key : String}

theorem findSome?_of_holds (h : List.Forall₂ Table.Holds tables logs) :
    tables.findSome? (·.get? key) =
      if upperCase key = key then logs.findSome? (·.last? key) else none := by
  induction h with
  | nil => simp
  | cons ht _ ih =>
    rw [List.findSome?_cons, List.findSome?_cons, ht key, ih]
    by_cases hkey : upperCase key = key
    · rw [if_pos hkey, if_pos hkey, if_pos hkey]
    · rw [if_neg hkey, if_neg hkey, if_neg hkey]

end

theorem Journal.get?_congr (j : Journal) {key key' : String} (h : upperCase key = upperCase key') :
    j.get? key = j.get? key' := by
  have hlogs : (fun log : Log => log.last? key) = fun log => log.last? key' := by
    funext log
    exact log.last?_congr h
  rw [get?, get?, hlogs]

namespace Refines

variable {m : Moment σ} {j : Journal}

theorem forall₂_layers (h : Refines m j) : List.Forall₂ Table.Holds m.context.layers j.layers := by
  obtain ⟨logs, base, hj, hpushed, hbase⟩ := h.layers
  rw [Context.layers, hj]
  exact List.rel_append hpushed (.cons hbase .nil)

/-- `Context.get?` looks a name up as it is written and then in uppercase, through all layers each
time; the first search finds nothing that the second would not. -/
theorem get? (h : Refines m j) (key : String) : m.context.get? key = j.get? key := by
  have hfind (key : String) : m.context.find? key =
      if upperCase key = key then j.get? key else none :=
    findSome?_of_holds h.forall₂_layers
  rw [Context.get?, hfind key, hfind (upperCase key), if_pos (upperCase_upperCase key),
    j.get?_congr (upperCase_upperCase key)]
  split
  · exact Option.or_self
  · rfl

theorem depth (h : Refines m j) : j.layers.length = m.context.depth + 1 := by
  obtain ⟨logs, base, hj, hpushed, -⟩ := h.layers
  rw [hj, List.length_append, ← hpushed.length_eq]
  rfl

/-! ## One operation -/

/-- The cache and the host do not matter. -/
theorem of_kept (h : Refines m j) (cache : Table) (s : σ) :
    Refines ⟨⟨{ m.context with cache }, m.scopes⟩, s⟩ j :=
  ⟨h.id, h.layers, h.scopes, h.pos⟩

theorem set (h : Refines m j) (key : String) (value : Value) :
    Refines { m with context := m.context.set key value } (j.after m.host (.set key value)) := by
  obtain ⟨logs, base, hj, hpushed, hbase⟩ := h.layers
  refine ⟨(m.context.id_set key value).trans h.id, ?_, h.scopes, h.pos⟩
  rw [Journal.after, hj]
  unfold Context.set
  split
  · next hp =>
    rw [hp] at hpushed
    cases hpushed
    exact ⟨[], base.write [(key, value)], rfl, hp ▸ .nil, hbase.insert key value⟩
  · next layer outer hp =>
    rw [hp] at hpushed
    cases hpushed with
    | cons hlayer houter => exact ⟨_ :: _, base, rfl, .cons (hlayer.insert key value) houter, hbase⟩

theorem setBase (h : Refines m j) (key : String) (value : Value) :
    Refines { m with context := m.context.setBase key value }
      (j.after m.host (.setBase key value)) := by
  obtain ⟨logs, base, hj, hpushed, hbase⟩ := h.layers
  refine ⟨h.id, ⟨logs, base.write [(key, value)], ?_, hpushed,
    hbase.insert key value⟩, h.scopes, h.pos⟩
  rw [Journal.after, hj, List.modifyLast_concat]

theorem added (h : Refines m j) {layer : Table} {log : Log} (hl : layer.Holds log) (s : σ) :
    Refines ⟨⟨(m.context.pushLayer layer).1, m.scopes⟩, s⟩
      { j with layers := log :: j.layers } := by
  obtain ⟨logs, base, hj, hpushed, hbase⟩ := h.layers
  exact ⟨h.id, ⟨log :: logs, base, congrArg (log :: ·) hj, .cons hl hpushed,
    hbase⟩, h.scopes, h.pos⟩

theorem removed (h : Refines m j) {n : Nat} (hn : n ≤ m.context.depth) :
    Refines { m with context := { m.context with pushed := m.context.pushed.drop n, cache := ∅ } }
      { j with layers := j.layers.drop n } := by
  obtain ⟨logs, base, hj, hpushed, hbase⟩ := h.layers
  refine ⟨h.id, ⟨logs.drop n, base, ?_, List.forall₂_drop n hpushed, hbase⟩, h.scopes, h.pos⟩
  have hlen : n ≤ logs.length := hpushed.length_eq ▸ hn
  rw [hj, List.drop_append_of_le_length hlen]

theorem push (h : Refines m j) (overlay : Overlay σ) :
    Refines ((Operation.push overlay).after m) (j.after m.host (.push overlay)) := by
  have hl := Overlay.run_layer overlay m.host
  rw [Journal.after, Operation.after]
  rcases hr : overlay.entries.run m.host with ⟨err | entries, s⟩
  · rw [hr] at hl
    rw [Operation.perform_push_of_error hl]
    exact h.of_kept _ s
  · rw [hr] at hl
    rw [Operation.perform_push_of_ok hl]
    exact h.added (Table.holds_empty.write entries) s

theorem enter (h : Refines m j) (overlay : Overlay σ) :
    Refines ((Operation.enter overlay).after m) (j.after m.host (.enter overlay)) := by
  have hl := Overlay.run_layer overlay m.host
  rw [Journal.after, Operation.after]
  rcases hr : overlay.entries.run m.host with ⟨err | entries, s⟩
  · rw [hr] at hl
    rw [Operation.perform_enter_of_error hl]
    exact h.of_kept _ s
  · rw [hr] at hl
    rw [Operation.perform_enter_of_ok hl]
    obtain ⟨hid, hlayers, hscopes, hpos⟩ := h.added (Table.holds_empty.write entries) s
    refine ⟨hid, hlayers, ?_, ?_⟩
    · dsimp only
      rw [hscopes, h.depth]
    · refine List.forall_mem_cons.2 ⟨?_, hpos⟩
      rw [h.depth]
      exact Nat.succ_pos _

theorem pop (h : Refines m j) (handle : Handle) :
    Refines ((Operation.pop handle : Operation σ).after m) (j.after m.host (.pop handle)) := by
  have hdepth := h.depth
  rw [Journal.after, Operation.after]
  cases hp : m.context.pop handle with
  | ok c =>
    obtain ⟨hcontext, hheight, hne, rfl⟩ := Context.pop_eq_ok.1 hp
    have hhandle : handle = ⟨j.id, j.layers.length - 1⟩ := by
      rw [hdepth, ← h.id, ← hcontext, Nat.add_sub_cancel, ← hheight]
    rw [Operation.perform_pop_of_ok hp, if_pos ⟨hhandle, by omega⟩, ← List.drop_one]
    dsimp only
    rw [← List.drop_one]
    exact h.removed (Nat.pos_of_ne_zero hne)
  | error err =>
    rw [Operation.perform_pop_of_error hp, if_neg]
    · exact h
    rintro ⟨rfl, hlt⟩
    have hheight : j.layers.length - 1 = m.context.depth := by omega
    have hok : m.context.pop ⟨j.id, j.layers.length - 1⟩ = .ok _ :=
      Context.pop_eq_ok.2 ⟨h.id.symm, hheight, by omega, rfl⟩
    cases hp.symm.trans hok

theorem leave (h : Refines m j) :
    Refines ((Operation.leave : Operation σ).after m) (j.after m.host .leave) := by
  have hdepth := h.depth
  rw [Journal.after, Operation.after, ← h.scopes]
  cases hs : m.scopes with
  | nil =>
    rw [Operation.perform_leave_nil hs]
    exact h
  | cons height scopes =>
    rw [Operation.perform_leave_cons hs]
    have hscopes : height :: scopes = j.scopes := hs ▸ h.scopes
    obtain ⟨hheight, hpos⟩ := List.forall_mem_cons.1 (hscopes ▸ h.pos)
    rw [hdepth]
    -- the layers from `height` on go with the scope, unless they were removed in it
    by_cases hle : height ≤ m.context.depth
    · obtain ⟨hid, hlayers, -, -⟩ :=
        h.removed (show m.context.depth + 1 - height ≤ m.context.depth by omega)
      rw [Context.leave, if_pos hle]
      exact ⟨hid, hlayers, rfl, hpos⟩
    · have hzero : m.context.depth + 1 - height = 0 := by omega
      dsimp only
      rw [Context.leave, if_neg hle, hzero, List.drop_zero]
      exact ⟨h.id, h.layers, rfl, hpos⟩

/-- **Each operation keeps the invariant `Refines`.** -/
theorem after (h : Refines m j) (op : Operation σ) : Refines (op.after m) (j.after m.host op) := by
  cases op with
  | set key value => exact h.set key value
  | setBase key value => exact h.setBase key value
  | push overlay => exact h.push overlay
  | pop handle => exact h.pop handle
  | enter overlay => exact h.enter overlay
  | leave => exact h.leave
  | clearCache => exact h.of_kept ∅ m.host
  | splice engine text => exact h.of_kept _ _
  | hostActs change => exact h.of_kept _ (change m.host)

theorem run (h : Refines m j) (ops : List (Operation σ)) : Refines (m.run ops) (j.run m ops) := by
  induction ops generalizing m j with
  | nil => exact h
  | cons op ops ih => exact ih (h.after op)

end Refines

/-! ## The base -/

/-- The outermost layer of the journal is `base`. -/
def Journal.HasBase (j : Journal) (base : Log) : Prop := ∃ logs, j.layers = logs ++ [base]

namespace Journal

variable {m : Moment σ} {j : Journal} {base : Log}

theorem run_append (earlier later : List (Operation σ)) :
    j.run m (earlier ++ later) = (j.run m earlier).run (m.run earlier) later := by
  induction earlier generalizing m j with
  | nil => rfl
  | cons op earlier ih => exact ih

/-- No operation takes the base away. It goes on with what is written in it. -/
theorem hasBase_after (h : j.HasBase base) (hpos : ∀ height ∈ j.scopes, 0 < height) (s : σ)
    (op : Operation σ) :
    ∃ written, (j.after s op).HasBase (base.write written) := by
  obtain ⟨logs, hj⟩ := h
  have hcons (log : Log) : ∃ logs', log :: j.layers = logs' ++ [base] :=
    ⟨log :: logs, congrArg (log :: ·) hj⟩
  have hdrop {n : Nat} (hn : n ≤ logs.length) : ∃ logs', j.layers.drop n = logs' ++ [base] :=
    ⟨logs.drop n, by rw [hj, List.drop_append_of_le_length hn]⟩
  cases op with
  | set key value =>
    cases logs with
    | nil => exact ⟨[(key, value)], [], by rw [after, hj]; rfl⟩
    | cons log logs => exact ⟨[], log.write [(key, value)] :: logs, by rw [after, hj]; rfl⟩
  | setBase key value => exact ⟨[(key, value)], logs, by rw [after, hj, List.modifyLast_concat]⟩
  | push overlay | enter overlay =>
    rw [after]
    split
    · exact ⟨[], hcons _⟩
    · exact ⟨[], logs, hj⟩
  | pop handle =>
    rw [after]
    split
    · next hp =>
      rw [hj, List.length_append, List.length_singleton] at hp
      rw [← List.drop_one]
      exact ⟨[], hdrop (by omega)⟩
    · exact ⟨[], logs, hj⟩
  | leave =>
    rw [after]
    split
    · exact ⟨[], logs, hj⟩
    · next height scopes hs =>
      have hheight : 0 < height := hpos height (hs ▸ List.mem_cons_self)
      have hlen : j.layers.length = logs.length + 1 := by
        rw [hj, List.length_append, List.length_singleton]
      exact ⟨[], hdrop (by omega)⟩
  | clearCache | splice | hostActs => exact ⟨[], logs, hj⟩

theorem hasBase_run (h : Refines m j) (hb : j.HasBase base) (ops : List (Operation σ)) :
    ∃ written, (j.run m ops).HasBase (base.write written) := by
  induction ops generalizing m j base with
  | nil => exact ⟨[], hb⟩
  | cons op ops ih =>
    obtain ⟨first, hfirst⟩ := hasBase_after hb h.pos m.host op
    obtain ⟨more, hmore⟩ := ih (h.after op) hfirst
    rw [Log.write_write] at hmore
    exact ⟨first ++ more, hmore⟩

end Journal

/-! ## Runs from the beginning -/

theorem upperCase_name (b : Builtin) : upperCase b.name = b.name := by
  cases b <;> decide

/-- The builtin functions have their names in uppercase. -/
theorem holds_builtins : Context.builtins.Holds .builtins := by
  have hnames : (∅ : Table).write (Builtin.all.map fun b => (b.name, .func (.builtin b))) =
      Table.empty.insertAll (Builtin.all.map fun b => (b.name, .func (.builtin b))) := by
    rw [Table.write, List.map_map]
    simp only [Function.comp_def, upperCase_name]
    rfl
  have hsys : upperCase "SYS" = "SYS" := by decide
  have hwrite := Table.holds_empty.write
    ((Builtin.all.map fun b => (b.name, .func (.builtin b))) ++ [("SYS", .object .process)])
  rw [Table.write_append, hnames, Table.write_singleton, hsys] at hwrite
  exact hwrite

theorem Starts.refines {c : Context} {j : Journal} (h : Starts c j) (s : σ) :
    Refines ⟨⟨c, []⟩, s⟩ j := by
  cases h with
  | empty id => exact ⟨rfl, ⟨[], _, rfl, .nil, Table.holds_empty⟩, rfl, nofun⟩
  | new id => exact ⟨rfl, ⟨[], _, rfl, .nil, holds_builtins⟩, rfl, nofun⟩

/-- **A context is a stack of maps that do not tell keys apart by their case.** Whatever is done
with a context that has just been made, a name stands for what was written last under it in the
innermost layer where anything was, and nothing if it was not written; names with the same uppercase
stand for the same. Context and journal have as many layers, and the base is always one of them: at
no time is it less than it was before. -/
theorem get?_run {c : Context} {j : Journal} (hc : Starts c j) (host : σ)
    (ops : List (Operation σ)) :
    (∀ key, (Moment.run ⟨⟨c, []⟩, host⟩ ops).context.get? key =
      (j.run ⟨⟨c, []⟩, host⟩ ops).get? key) ∧
    (∀ key key', upperCase key = upperCase key' →
      (Moment.run ⟨⟨c, []⟩, host⟩ ops).context.get? key =
        (Moment.run ⟨⟨c, []⟩, host⟩ ops).context.get? key') ∧
    (j.run ⟨⟨c, []⟩, host⟩ ops).layers.length = (Moment.run ⟨⟨c, []⟩, host⟩ ops).context.depth + 1 ∧
    ∀ earlier later, ops = earlier ++ later → ∃ base written,
      (j.run ⟨⟨c, []⟩, host⟩ earlier).HasBase base ∧
      (j.run ⟨⟨c, []⟩, host⟩ ops).HasBase (base.write written) := by
  have hrun := (hc.refines host).run ops
  refine ⟨hrun.get?, fun key key' h => ?_, hrun.depth, ?_⟩
  · rw [hrun.get? key, hrun.get? key']
    exact Journal.get?_congr _ h
  · rintro earlier later rfl
    have hmiddle := (hc.refines host).run earlier
    obtain ⟨logs, base, hbase, -⟩ := hmiddle.layers
    obtain ⟨written, hwritten⟩ := Journal.hasBase_run hmiddle ⟨logs, hbase⟩ later
    rw [← Journal.run_append] at hwritten
    exact ⟨base, written, ⟨logs, hbase⟩, hwritten⟩

/-- In a scope, a map with two keys that are one in uppercase. -/
def Operation.shadowing : List (Operation Unit) :=
  [.set "a" (.int 1), .enter [.merge (.ok
    (.map (Entries.ofPairs [("b", .int 3), ("A", .int 2), ("B", .int 4)])))]]

theorem get?_run_shadowing : Starts (.empty 0) (.ofBase 0 ⟨[]⟩) ∧
    (Moment.run ⟨⟨.empty 0, []⟩, ()⟩ Operation.shadowing).context.get? "b" = some (.int 3) ∧
    ((Journal.ofBase 0 ⟨[]⟩).run ⟨⟨.empty 0, []⟩, ()⟩ Operation.shadowing).get? "B" =
      some (.int 3) := by
  obtain ⟨hjournal, hcase, -, -⟩ := get?_run (.empty 0) () Operation.shadowing
  have hvalue : (Moment.run ⟨⟨.empty 0, []⟩, ()⟩ Operation.shadowing).context.get? "b" =
      some (.int 3) := by
    rfl
  have hupper : upperCase "b" = upperCase "B" := by decide
  exact ⟨.empty 0, hvalue, by rw [← hjournal, ← hcase "b" "B" hupper, hvalue]⟩

end Interpolation
