import Interpolation.Context.Overlay
import Interpolation.Proofs.Splice.Work

/-!
# Operations on a context

Operations on a context, one after another. Scopes are left innermost first, so that of those that
are open only the depths of their layers have to be known.

What an operation can do to a context is said once, by `Operation.Effect`: it puts a layer on the
others, it takes the innermost layers off, it writes a key, or it leaves the layers alone. Whatever
changes the number of layers forgets the values of sigils too.
-/

namespace Interpolation

open Text

variable {σ : Type}

/-- A context, and the depths of the layers of its open scopes, innermost first. -/
structure Site where
  context : Context
  scopes : List Nat

/-- A site and the host at one time. -/
structure Moment (σ : Type) extends Site where
  host : σ

inductive Operation (σ : Type) where
  | set (key : String) (value : Value)
  | setBase (key : String) (value : Value)
  | push (overlay : Overlay σ)
  | pop (handle : Handle)
  /-- Enters a scope. -/
  | enter (overlay : Overlay σ)
  /-- Leaves the innermost open scope. -/
  | leave
  | clearCache
  | splice (engine : Engine σ) (text : String)
  /-- Something that the host does by itself. -/
  | hostActs (change : σ → σ)

namespace Context

theorem run_push (c : Context) (overlay : Overlay σ) (s : σ) :
    (c.push overlay).run s = ((overlay.layer.run s).1.map c.pushLayer,
      (overlay.layer.run s).2) := run_map ..

theorem depth_set (c : Context) (key : String) (value : Value) :
    (c.set key value).depth = c.depth := by
  cases h : c.pushed <;> simp [set, depth, h]

theorem id_set (c : Context) (key : String) (value : Value) : (c.set key value).id = c.id := by
  unfold set
  split <;> rfl

theorem cache_set (c : Context) (key : String) (value : Value) :
    (c.set key value).cache = c.cache := by
  unfold set
  split <;> rfl

/-- Only the handle with the `id` and the `depth` of the context pops its innermost layer. -/
theorem pop_eq_ok {c c' : Context} {h : Handle} :
    c.pop h = .ok c' ↔ h.context = c.id ∧ h.depth = c.depth ∧ c.depth ≠ 0 ∧
      { c with pushed := c.pushed.tail, cache := ∅ } = c' := by
  unfold pop
  by_cases hid : h.context = c.id
  · by_cases hd : h.depth = c.depth ∧ c.depth ≠ 0
    · rw [if_neg (not_not_intro hid), if_neg (by omega)]
      simp [hid, hd]
    · rw [if_neg (not_not_intro hid), if_pos (by omega)]
      exact iff_of_false nofun fun h' => hd ⟨h'.2.1, h'.2.2.1⟩
  · rw [if_pos hid]
    exact iff_of_false nofun fun h' => hid h'.1

/-- Every other handle is refused. -/
theorem kind_of_pop {c : Context} {h : Handle} {err : Error} (hp : c.pop h = .error err) :
    err.kind = .cacheInconsistency := by
  unfold pop at hp
  split at hp
  · cases hp
    rfl
  · split at hp
    · cases hp
      rfl
    · exact absurd hp nofun

end Context

namespace Operation

/-- What an operation answers, and the moment after it. A push answers the handle of its layer. -/
def perform (m : Moment σ) : Operation σ → Except Error (Option Handle) × Moment σ
  | .set key value => (.ok none, { m with context := m.context.set key value })
  | .setBase key value => (.ok none, { m with context := m.context.setBase key value })
  | .push overlay =>
    match (m.context.push overlay).run m.host with
    | (.ok (context, handle), host) => (.ok (some handle), { m with context, host })
    | (.error err, host) => (.error err, { m with host })
  | .pop handle =>
    match m.context.pop handle with
    | .ok context => (.ok none, { m with context })
    | .error err => (.error err, m)
  | .enter overlay =>
    match (m.context.push overlay).run m.host with
    | (.ok (context, handle), host) =>
      (.ok none, { m with context, scopes := handle.depth :: m.scopes, host })
    | (.error err, host) => (.error err, { m with host })
  | .leave =>
    match m.scopes with
    | [] => (.ok none, m)
    | depth :: scopes => (.ok none, { m with context := m.context.leave depth, scopes })
  | .clearCache => (.ok none, { m with context := m.context.clearCache })
  | .splice engine text =>
    let ((r, context), host) := (engine.splice m.context text).run m.host
    (r.map fun _ => none, { m with context, host })
  | .hostActs change => (.ok none, { m with host := change m.host })

/-- The moment after an operation. -/
def after (op : Operation σ) (m : Moment σ) : Moment σ := (op.perform m).2

end Operation

/-- The moment after a run. -/
def Moment.run (m : Moment σ) (ops : List (Operation σ)) : Moment σ :=
  ops.foldl (fun m op => op.after m) m

namespace Operation

section
variable {m : Moment σ} {overlay : Overlay σ} {layer : Table} {err : Error} {s : σ}

theorem perform_push_of_ok (h : overlay.layer.run m.host = (.ok layer, s)) :
    perform m (.push overlay) =
      (.ok (some ⟨m.context.id, m.context.depth + 1⟩),
        ⟨⟨(m.context.pushLayer layer).1, m.scopes⟩, s⟩) := by
  rw [perform, Context.run_push, h]
  rfl

theorem perform_push_of_error (h : overlay.layer.run m.host = (.error err, s)) :
    perform m (.push overlay) = (.error err, { m with host := s }) := by
  rw [perform, Context.run_push, h]
  rfl

theorem perform_enter_of_ok (h : overlay.layer.run m.host = (.ok layer, s)) :
    perform m (.enter overlay) =
      (.ok none, ⟨⟨(m.context.pushLayer layer).1, (m.context.depth + 1) :: m.scopes⟩, s⟩) := by
  rw [perform, Context.run_push, h]
  rfl

theorem perform_enter_of_error (h : overlay.layer.run m.host = (.error err, s)) :
    perform m (.enter overlay) = (.error err, { m with host := s }) := by
  rw [perform, Context.run_push, h]
  rfl

theorem perform_pop_of_ok {c : Context} {handle : Handle} (h : m.context.pop handle = .ok c) :
    perform m (.pop handle) = (.ok none, { m with context := c }) := by
  rw [perform, h]

theorem perform_pop_of_error {handle : Handle} (h : m.context.pop handle = .error err) :
    perform m (.pop handle) = (.error err, m) := by
  rw [perform, h]

theorem perform_leave_nil (h : m.scopes = []) : perform m .leave = (.ok none, m) := by
  rw [perform, h]

theorem perform_leave_cons {depth : Nat} {scopes : List Nat} (h : m.scopes = depth :: scopes) :
    perform m .leave = (.ok none, ⟨⟨m.context.leave depth, scopes⟩, m.host⟩) := by
  rw [perform, h]

end

/-- The operation makes layers come or go, or is there to forget the values of sigils. -/
def Clears (op : Operation σ) (m : Moment σ) : Prop :=
  match op with
  | .push _ | .pop _ | .enter _ => ∃ answer, (op.perform m).1 = .ok answer
  | .leave => (op.after m).context.depth < m.context.depth
  | .clearCache => True
  | _ => False

/-- The operation writes the key in a layer, the base being layer 0. -/
def Writes (op : Operation σ) (m : Moment σ) (layer : Nat) (key : String) : Prop :=
  match op with
  | .set k _ => layer = m.context.depth ∧ key = upperCase k
  | .setBase k _ => layer = 0 ∧ key = upperCase k
  | _ => False

/-- What `op` can do to the context of `m`. -/
inductive Effect (op : Operation σ) (m : Moment σ) : Context → Prop where
  | added (layer : Table) : Effect op m (m.context.pushLayer layer).1
  | removed (n : Nat) : Effect op m { m.context with pushed := m.context.pushed.drop n, cache := ∅ }
  | wrote (key : String) (value : Value) (h : ¬ op.Clears m)
    (hw : op.Writes m m.context.depth (upperCase key)) :
    Effect op m (m.context.set key value)
  | wroteBase (key : String) (value : Value) (h : ¬ op.Clears m)
    (hw : op.Writes m 0 (upperCase key)) :
    Effect op m (m.context.setBase key value)
  /-- The layers stay as they are, and unless a text is spliced so does the cache. -/
  | kept (cache : Table) (h : ¬ op.Clears m)
    (hc : cache = m.context.cache ∨ ∃ engine text, op = .splice engine text) :
    Effect op m { m.context with cache }

theorem effect (op : Operation σ) (m : Moment σ) : op.Effect m (op.after m).context := by
  have hsame (h : ¬ op.Clears m) : op.Effect m m.context := .kept _ h (.inl rfl)
  cases op with
  | set key value => exact .wrote key value nofun ⟨rfl, rfl⟩
  | setBase key value => exact .wroteBase key value nofun ⟨rfl, rfl⟩
  | clearCache => exact .removed 0
  | hostActs change => exact hsame nofun
  | splice engine text => exact .kept _ nofun (.inr ⟨engine, text, rfl⟩)
  | push overlay =>
    rcases hl : overlay.layer.run m.host with ⟨err | layer, s⟩
    · rw [after, Clears, perform_push_of_error hl] at *
      exact hsame nofun
    · rw [after, perform_push_of_ok hl]
      exact .added layer
  | enter overlay =>
    rcases hl : overlay.layer.run m.host with ⟨err | layer, s⟩
    · rw [after, Clears, perform_enter_of_error hl] at *
      exact hsame nofun
    · rw [after, perform_enter_of_ok hl]
      exact .added layer
  | pop handle =>
    cases hp : m.context.pop handle with
    | ok c =>
      obtain ⟨-, -, -, rfl⟩ := Context.pop_eq_ok.1 hp
      rw [after, perform_pop_of_ok hp]
      dsimp only
      rw [← List.drop_one]
      exact .removed 1
    | error err =>
      rw [after, Clears, perform_pop_of_error hp] at *
      exact hsame nofun
  | leave =>
    have hstays (h : (leave.after m).context = m.context) :
        Effect leave m (leave.after m).context := by
      rw [Clears, h] at hsame
      rw [h]
      exact hsame (Nat.lt_irrefl _)
    cases hs : m.scopes with
    | nil =>
      rw [after, perform_leave_nil hs] at *
      exact hstays rfl
    | cons depth scopes =>
      rw [after, perform_leave_cons hs] at *
      by_cases hd : depth ≤ m.context.depth
      · rw [Context.leave, if_pos hd]
        exact .removed _
      · rw [Context.leave, if_neg hd] at *
        exact hstays rfl

/-- What is in `cache` stays if layers do not come or go, unless a text is spliced. -/
theorem cache_of_not_clears {op : Operation σ} {m : Moment σ} (h : ¬ op.Clears m)
    (hleave : op ≠ .leave) (hsplice : ∀ engine text, op ≠ .splice engine text) :
    (op.after m).context.cache = m.context.cache := by
  cases op with
  | set key value => exact m.context.cache_set key value
  | setBase | hostActs => rfl
  | clearCache => exact absurd trivial h
  | leave => exact absurd rfl hleave
  | splice engine text => exact absurd rfl (hsplice engine text)
  | push overlay =>
    rcases hl : overlay.layer.run m.host with ⟨err | layer, s⟩
    · rw [after, perform_push_of_error hl]
    · exact absurd ⟨_, congrArg Prod.fst (perform_push_of_ok hl)⟩ h
  | enter overlay =>
    rcases hl : overlay.layer.run m.host with ⟨err | layer, s⟩
    · rw [after, perform_enter_of_error hl]
    · exact absurd ⟨_, congrArg Prod.fst (perform_enter_of_ok hl)⟩ h
  | pop handle =>
    cases hp : m.context.pop handle with
    | ok c => exact absurd ⟨_, congrArg Prod.fst (perform_pop_of_ok hp)⟩ h
    | error err => rw [after, perform_pop_of_error hp]

/-- The context stays the same one. One layer more is on its stack, or some number of layers less.
-/
theorem depth_after (op : Operation σ) (m : Moment σ) :
    (op.after m).context.id = m.context.id ∧
      ((op.after m).context.depth = m.context.depth + 1 ∨
        (op.after m).context.depth ≤ m.context.depth) := by
  have he := op.effect m
  generalize (op.after m).context = c at he
  cases he with
  | added => exact ⟨rfl, .inl rfl⟩
  | removed n => exact ⟨rfl, .inr (by simp [Context.depth])⟩
  | wrote => exact ⟨m.context.id_set .., .inr (Nat.le_of_eq (m.context.depth_set ..))⟩
  | wroteBase | kept => exact ⟨rfl, .inr (Nat.le_refl _)⟩

/-- The handle that a push answers is that of the new innermost layer. -/
theorem depth_after_of_answer {op : Operation σ} {m : Moment σ} {handle : Handle}
    (h : (op.perform m).1 = .ok (some handle)) :
    handle = ⟨m.context.id, m.context.depth + 1⟩ ∧
    (op.after m).context.depth = m.context.depth + 1 := by
  cases op with
  | push overlay =>
    rcases hl : overlay.layer.run m.host with ⟨err | layer, s⟩
    · rw [perform_push_of_error hl] at h
      exact absurd h nofun
    · rw [after]
      rw [perform_push_of_ok hl] at h ⊢
      cases h
      exact ⟨rfl, rfl⟩
  | splice engine text =>
    rw [perform] at h
    generalize (engine.splice m.context text).run m.host = r at h
    obtain ⟨⟨err | text, c⟩, s⟩ := r <;> exact absurd h nofun
  | enter | pop | leave =>
    -- each of these answers nothing or an error, however it goes
    rw [perform] at h
    split at h <;> exact absurd h nofun
  | set | setBase | clearCache | hostActs => exact absurd h nofun

end Operation
end Interpolation
