import Interpolation.Value

/-!
# Tables

Finite maps from texts to values. `get?` is the view of a table: what each operation does is what it
does to `get?`.
-/

namespace Interpolation

structure Table where
  entries : List (String × Value)

namespace Table

def empty : Table := ⟨[]⟩

instance : EmptyCollection Table := ⟨empty⟩

def get? (t : Table) (key : String) : Option Value := t.entries.lookup key

/-- The table with `key` bound to `value`, in place of the value it had. -/
def insert (t : Table) (key : String) (value : Value) : Table :=
  ⟨(key, value) :: t.entries.filter (·.1 != key)⟩

/-- The table with keys bound to values in turn. -/
def insertAll (t : Table) (entries : List (String × Value)) : Table :=
  entries.foldl (fun t (key, value) => t.insert key value) t

@[simp] theorem get?_empty (key : String) : (∅ : Table).get? key = none := rfl

private theorem lookup_filter_ne {key k : String} (h : k ≠ key) (entries : List (String × Value)) :
    (entries.filter (·.1 != key)).lookup k = entries.lookup k := by
  induction entries with
  | nil => rfl
  | cons e es ih =>
    obtain ⟨l, v⟩ := e
    by_cases hl : l = key
    · subst hl
      simp [List.lookup_cons, beq_false_of_ne h, ih]
    · simp [List.lookup_cons, hl, ih]

@[simp] theorem get?_insert (t : Table) (key : String) (value : Value) (k : String) :
    (t.insert key value).get? k = if k = key then some value else t.get? k := by
  unfold get? insert
  by_cases h : k = key
  · simp [h]
  · simp [List.lookup_cons, h, beq_false_of_ne h, lookup_filter_ne h]

end Table
end Interpolation
