import Interpolation.Context.Overlay
import Interpolation.Data
import Interpolation.Proofs.Run
import Interpolation.Proofs.Text.Case
import Interpolation.Proofs.Text.Encoding
import Interpolation.Proofs.Value.Entries

/-!
# What is written in a layer

A log keeps everything that was written, under the keys as they were given, and is asked for a key
whatever its case. A table keeps one entry for each key in uppercase, and says the same
(`Table.Holds`). The entries of an overlay are those of its parts in order, and those of a map are
in the order of the bytes of their keys; the layer that is made of an overlay holds just these
(`Overlay.run_layer`).
-/

namespace Interpolation

open Text

variable {σ : Type}

/-- What was written in a layer, last write first. -/
structure Log where
  writes : List (String × Value)

namespace Log

/-- The value that was written last under a key with the same uppercase as `key`. -/
def last? (log : Log) (key : String) : Option Value :=
  (log.writes.find? fun (k, _) => upperCase k = upperCase key).map (·.2)

/-- The log with more writes, first one first. -/
def write (log : Log) (entries : List (String × Value)) : Log := ⟨entries.reverse ++ log.writes⟩

theorem last?_congr {key key' : String} (log : Log) (h : upperCase key = upperCase key') :
    log.last? key = log.last? key' := by
  rw [last?, last?, h]

theorem write_write (log : Log) (first more : List (String × Value)) :
    (log.write first).write more = log.write (first ++ more) := by
  simp [write]

theorem write_cons (log : Log) (key : String) (value : Value) (entries : List (String × Value)) :
    log.write ((key, value) :: entries) = (log.write [(key, value)]).write entries := by
  simp [write]

theorem last?_write_singleton (log : Log) (key : String) (value : Value) (k : String) :
    (log.write [(key, value)]).last? k =
      if upperCase key = upperCase k then some value else log.last? k := by
  by_cases h : upperCase key = upperCase k <;> simp [last?, write, h]

end Log

namespace Table

/-- The table with entries under their keys in uppercase. -/
def write (t : Table) (entries : List (String × Value)) : Table :=
  t.insertAll (entries.map fun (key, value) => (upperCase key, value))

theorem write_singleton (t : Table) (key : String) (value : Value) :
    t.write [(key, value)] = t.insert (upperCase key) value := rfl

theorem write_append (t : Table) (first rest : List (String × Value)) :
    t.write (first ++ rest) = (t.write first).write rest := by
  rw [write, List.map_append, insertAll, List.foldl_append]
  rfl

/-- Keys that are not written stand for what they did. -/
theorem get?_write_of_ne {t : Table} {entries : List (String × Value)} {key : String}
    (h : ∀ entry ∈ entries, upperCase entry.1 ≠ key) : (t.write entries).get? key = t.get? key := by
  induction entries generalizing t with
  | nil => rfl
  | cons entry entries ih =>
    obtain ⟨hentry, hentries⟩ := List.forall_mem_cons.1 h
    have hrest : ((t.insert (upperCase entry.1) entry.2).write entries).get? key = _ := ih hentries
    rw [get?_insert, if_neg hentry.symm] at hrest
    exact hrest

/-- The table says what `log` says, and has no keys but uppercase ones. -/
def Holds (t : Table) (log : Log) : Prop :=
  ∀ key, t.get? key = if upperCase key = key then log.last? key else none

theorem holds_empty : (∅ : Table).Holds ⟨[]⟩ := by
  intro key
  rw [get?_empty]
  split <;> rfl

theorem Holds.insert {t : Table} {log : Log} (h : t.Holds log) (key : String) (value : Value) :
    (t.insert (upperCase key) value).Holds (log.write [(key, value)]) := by
  intro k
  rw [get?_insert, h k, Log.last?_write_singleton]
  by_cases hk : k = upperCase key
  · have hupper : upperCase k = k := by
      rw [hk, upperCase_upperCase]
    have hkey : upperCase key = upperCase k := by
      rw [hk, upperCase_upperCase]
    rw [if_pos hk, if_pos hupper, if_pos hkey]
  · rw [if_neg hk]
    split
    · next hupper =>
      rw [if_neg]
      intro hkey
      exact hk (hupper.symm.trans hkey.symm)
    · rfl

/-- **`Holds` is kept when the same entries are written in a table and in its log.** -/
theorem Holds.write {t : Table} {log : Log} (h : t.Holds log) (entries : List (String × Value)) :
    (t.write entries).Holds (log.write entries) := by
  induction entries generalizing t log with
  | nil => exact h
  | cons entry entries ih =>
    obtain ⟨key, value⟩ := entry
    rw [Log.write_cons]
    exact ih (h.insert key value)

end Table

/-! ## The entries of an overlay -/

theorem exists_of_bind_eq_ok {ε α β : Type} {x : Except ε α} {f : α → Except ε β} {b : β}
    (h : x >>= f = .ok b) : ∃ a, x = .ok a ∧ f a = .ok b := by
  cases x with
  | error err => cases h
  | ok a => exact ⟨a, rfl, h⟩

/-- The entries of a map in the order of the bytes of their keys. Anything but a map is refused. -/
def Value.entriesByOctets : Value → Except Error (List (String × Value))
  | .map entries => .ok (entries.toList.mergeSort fun a b => octets a.1 ≤ octets b.1)
  | v => .error (.of (.overlayNotMap v.kind))

namespace Overlay

def Part.entries : Part σ → Eval σ (List (String × Value))
  | .set key value => pure [(key, value)]
  | .merge map => ExceptT.mk (pure (map.bind Value.entriesByOctets))
  | .source ask => do
    let map ← ask
    ExceptT.mk (pure map.entriesByOctets)

/-- The entries of the parts, in order. -/
def entries : Overlay σ → Eval σ (List (String × Value))
  | [] => pure []
  | part :: parts => do
    let first ← part.entries
    let rest ← entries parts
    return first ++ rest

/-- What `extend` writes, in the order of the keys, is in the order of their bytes. -/
theorem extend_eq (t : Table) (v : Value) : extend t v = v.entriesByOctets.map t.write := by
  cases v with
  | map entries =>
    have hsorted : entries.toList.mergeSort (fun a b => octets a.1 ≤ octets b.1) =
        entries.toList := by
      refine List.mergeSort_of_pairwise (entries.pairwise_toList.imp fun hlt => decide_eq_true ?_)
      exact List.le_of_lt (octets_lt_octets_iff.2 hlt)
    rw [Value.entriesByOctets, hsorted]
    rfl
  | none | bool | int | float | str | bytes | list | object | func => rfl

theorem Part.run_apply (part : Part σ) (t : Table) (s : σ) :
    (part.apply t).run s = ((part.entries.run s).1.map t.write, (part.entries.run s).2) := by
  cases part with
  | set key value => rfl
  | merge map =>
    cases map with
    | error err => rfl
    | ok v => exact congrArg (·, s) (extend_eq t v)
  | source ask =>
    rw [apply, entries]
    rcases hr : ask.run s with ⟨err | v, s'⟩
    · rw [run_bind_of_error hr, run_bind_of_error hr]
      rfl
    · rw [run_bind_of_ok hr, run_bind_of_ok hr]
      exact congrArg (·, s') (extend_eq t v)

theorem run_foldlM (overlay : Overlay σ) (t : Table) (s : σ) :
    (overlay.foldlM Part.apply t).run s = ((overlay.entries.run s).1.map t.write,
      (overlay.entries.run s).2) := by
  induction overlay generalizing t s with
  | nil => rfl
  | cons part parts ih =>
    have happly := Part.run_apply part t s
    rw [List.foldlM_cons, entries]
    rcases hr : part.entries.run s with ⟨err | first, s'⟩
    · rw [hr] at happly
      rw [run_bind_of_error happly, run_bind_of_error hr]
      rfl
    · rw [hr] at happly
      rw [run_bind_of_ok happly, run_bind_of_ok hr, ih, bind_pure_comp, run_map]
      cases (entries parts).run s' with
      | mk r s'' =>
        cases r with
        | error err => rfl
        | ok rest => exact congrArg (fun t => (Except.ok t, s'')) (t.write_append first rest).symm

/-- **The layer of an overlay holds its `entries`**, later ones in place of earlier ones. -/
theorem run_layer (overlay : Overlay σ) (s : σ) :
    overlay.layer.run s = ((overlay.entries.run s).1.map (∅ : Table).write,
      (overlay.entries.run s).2) :=
  run_foldlM overlay ∅ s

end Overlay

end Interpolation
