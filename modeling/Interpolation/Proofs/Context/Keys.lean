import Interpolation.Proofs.Context.Journal
import Interpolation.Proofs.Context.Names

/-!
# The keys of a context

Whatever is done with a context that has just been made, its layers have no keys but uppercase ones
(`upper_run`), those of an overlay among them. For this reason a layer that binds one name gives
that name its value, whatever is in the layers outside it (`Context.Upper.get?_pushLayer_insert`).
-/

namespace Interpolation

open Text

variable {σ : Type}

/-- All keys are in uppercase. -/
def Table.Upper (t : Table) : Prop := ∀ key, upperCase key ≠ key → t.get? key = none

/-- All keys of all layers are in uppercase. -/
def Context.Upper (c : Context) : Prop := ∀ layer ∈ c.layers, layer.Upper

namespace Table

variable {t : Table}

theorem upper_empty : (∅ : Table).Upper := fun key _ => get?_empty key

theorem Upper.insert (h : t.Upper) (key : String) (value : Value) :
    (t.insert (upperCase key) value).Upper := by
  intro k hk
  have hne : k ≠ upperCase key := by
    rintro rfl
    exact hk (upperCase_upperCase key)
  rw [get?_insert, if_neg hne, h k hk]

theorem Holds.upper {log : Log} (h : t.Holds log) :
    t.Upper := fun key hkey => (h key).trans (if_neg hkey)

end Table

theorem Overlay.upper_of_layer {overlay : Overlay σ} {t : Table} {s s' : σ}
    (h : overlay.layer.run s = (.ok t, s')) :
    t.Upper := by
  obtain ⟨entries, -, hwrites⟩ := writes_of_foldlM h
  intro key hkey
  rw [hwrites key, Table.get?_empty]
  rintro entry - rfl
  exact hkey (upperCase_upperCase entry.1)

namespace Context.Upper

variable {c : Context}

theorem pushed (h : c.Upper) : ∀ layer ∈ c.pushed, layer.Upper := fun layer hlayer =>
  h layer (List.mem_append_left _ hlayer)

theorem base (h : c.Upper) :
    c.base.Upper := h c.base (List.mem_append_right _ (List.mem_singleton_self _))

theorem of_layers (hpushed : ∀ layer ∈ c.pushed, layer.Upper) (hbase : c.base.Upper) : c.Upper :=
  List.forall_mem_append.2 ⟨hpushed, List.forall_mem_singleton.2 hbase⟩

theorem set (h : c.Upper) (key : String) (value : Value) : (c.set key value).Upper := by
  have hpushed := h.pushed
  unfold Context.set
  split
  · exact of_layers hpushed (h.base.insert key value)
  · next layer outer hc =>
    rw [hc] at hpushed
    obtain ⟨hlayer, houter⟩ := List.forall_mem_cons.1 hpushed
    exact of_layers (List.forall_mem_cons.2 ⟨hlayer.insert key value, houter⟩) h.base

theorem setBase (h : c.Upper) (key : String) (value : Value) : (c.setBase key value).Upper :=
  of_layers h.pushed (h.base.insert key value)

theorem pushLayer (h : c.Upper) {layer : Table} (hlayer : layer.Upper) :
    (c.pushLayer layer).1.Upper :=
  of_layers (List.forall_mem_cons.2 ⟨hlayer, h.pushed⟩) h.base

theorem drop (h : c.Upper) (n : Nat) (cache : Table) :
    Upper { c with pushed := c.pushed.drop n, cache } :=
  of_layers (fun layer hlayer => h.pushed layer (List.mem_of_mem_drop hlayer)) h.base

theorem leave (h : c.Upper) (depth : Nat) : (c.leave depth).Upper := by
  unfold Context.leave
  split
  · exact h.drop _ _
  · exact h

/-- A layer that binds one name gives it its value. -/
theorem get?_pushLayer_insert (h : c.Upper) (key : String) (value : Value) :
    (c.pushLayer (Table.insert ∅ (upperCase key) value)).1.get? key = some value := by
  have hupper : (c.pushLayer (Table.insert ∅ (upperCase key) value)).1.find?
      (upperCase key) = some value := by
    change (_ :: c.layers).findSome? (·.get? (upperCase key)) = _
    rw [List.findSome?_cons, Table.get?_insert, if_pos rfl]
  rw [get?, hupper]
  by_cases hkey : upperCase key = key
  · rw [hkey] at hupper
    rw [hkey, hupper, Option.some_or]
  · have hpushed := h.pushLayer (Table.upper_empty.insert key value)
    have hnone : (c.pushLayer (Table.insert ∅ (upperCase key) value)).1.find? key = none :=
      List.findSome?_eq_none_iff.2 fun layer hlayer => hpushed layer hlayer key hkey
    rw [hnone, Option.none_or]

end Context.Upper

/-- **Each operation keeps the keys in uppercase (`Context.Upper`).** -/
theorem upper_after {m : Moment σ} (h : m.context.Upper) (op : Operation σ) :
    (op.after m).context.Upper := by
  cases op with
  | set key value => exact h.set key value
  | setBase key value => exact h.setBase key value
  | clearCache | splice | hostActs => exact .of_layers h.pushed h.base
  | push overlay =>
    rcases hl : overlay.layer.run m.host with ⟨err | layer, s⟩
    · rw [Operation.after, Operation.perform_push_of_error hl]
      exact h
    · rw [Operation.after, Operation.perform_push_of_ok hl]
      exact h.pushLayer (Overlay.upper_of_layer hl)
  | enter overlay =>
    rcases hl : overlay.layer.run m.host with ⟨err | layer, s⟩
    · rw [Operation.after, Operation.perform_enter_of_error hl]
      exact h
    · rw [Operation.after, Operation.perform_enter_of_ok hl]
      exact h.pushLayer (Overlay.upper_of_layer hl)
  | pop handle =>
    cases hp : m.context.pop handle with
    | ok c =>
      obtain ⟨-, -, -, rfl⟩ := Context.pop_eq_ok.1 hp
      rw [Operation.after, Operation.perform_pop_of_ok hp]
      dsimp only
      rw [← List.drop_one]
      exact h.drop 1 ∅
    | error err =>
      rw [Operation.after, Operation.perform_pop_of_error hp]
      exact h
  | leave =>
    cases hs : m.scopes with
    | nil =>
      rw [Operation.after, Operation.perform_leave_nil hs]
      exact h
    | cons depth scopes =>
      rw [Operation.after, Operation.perform_leave_cons hs]
      exact h.leave depth

theorem Starts.upper {c : Context} {j : Journal} (h : Starts c j) : c.Upper := by
  cases h with
  | empty id => exact .of_layers (List.forall_mem_nil _) Table.upper_empty
  | new id => exact .of_layers (List.forall_mem_nil _) holds_builtins.upper

/-- **A context has no keys but uppercase ones.** -/
theorem upper_run {m : Moment σ} (h : m.context.Upper) (ops : List (Operation σ)) :
    (m.run ops).context.Upper := by
  induction ops generalizing m with
  | nil => exact h
  | cons op ops ih => exact ih (upper_after h op)

end Interpolation
