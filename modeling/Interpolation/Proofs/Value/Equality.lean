import Interpolation.Proofs.Data.Erasure
import Mathlib

/-!
# Equality of values

Floating point numbers are equal as numbers: the two zeros are, and a NaN is equal to nothing. So
two values are equal exactly if neither holds a NaN and they differ in the signs of zeros at most,
at any depth (`beq_iff`). It follows that equality is symmetric and transitive, and reflexive on the
values without a NaN (`beq_partial_equivalence`).
-/

namespace Interpolation

/-! ## Numbers -/

/-- The number, zero without its sign. -/
def Number.unsigned (x : Float) : Float := if x == 0 then 0 else x

theorem Number.beq_iff {x y : Float} :
    (x == y) = true ↔ x.isNaN = false ∧ y.isNaN = false ∧
    Number.unsigned x = Number.unsigned y := by
  have hzero : (0 : Float) ≠ Float.nan := by decide
  have hnegative : (-0 : Float) ≠ Float.nan := by decide
  simp only [unsigned, Float.beq_iff_ne_nan_and_eq, Float.isNaN_eq_decide_eq_nan,
    decide_eq_false_iff_not]
  grind

namespace Value

/-! ## Values up to the signs of zeros -/

/-- The value is no NaN itself. -/
def NotNaN : Value → Prop
  | .float x => x.isNaN = false
  | _ => True

mutual

/-- The value, all zeros in it without their signs. -/
def canonical : Value → Value
  | .none => .none
  | .bool b => .bool b
  | .int n => .int n
  | .float x => .float (Number.unsigned x)
  | .str s => .str s
  | .bytes octets => .bytes octets
  | .list items => .list (canonicalItems items)
  | .map entries => .map (canonicalEntries entries)
  | .object o => .object o
  | .func f => .func f

def canonicalItems : List Value → List Value
  | [] => []
  | v :: vs => canonical v :: canonicalItems vs

def canonicalEntries {after : Option String} : Entries after → Entries after
  | .nil => .nil
  | .cons key h v rest => .cons key h (canonical v) (canonicalEntries rest)

end

theorem Throughout.leaf_iff {P : Value → Prop} {v : Value} (hparts : v.parts = []) :
    v.Throughout P ↔ P v :=
  ⟨fun ⟨h, _⟩ => h, fun h => .leaf h hparts⟩

mutual

theorem equal_iff (a b : Value) :
    equal a b = true ↔ a.Throughout NotNaN ∧ b.Throughout NotNaN ∧ a.canonical = b.canonical := by
  match a with
  | .float x =>
    cases b with
    | float y =>
      rw [equal, Number.beq_iff, Throughout.leaf_iff rfl, Throughout.leaf_iff rfl, canonical,
        canonical, float.injEq]
      rfl
    | _ => simp [equal, canonical]
  | .list as =>
    cases b with
    | list bs => simp [equal, canonical, Throughout.list_iff, NotNaN, equalItems_iff as bs]
    | _ => simp [equal, canonical]
  | .map as =>
    cases b with
    | map bs => simp [equal, canonical, Throughout.map_iff, NotNaN, equalEntries_iff as bs]
    | _ => simp [equal, canonical]
  | .none | .bool _ | .int _ | .str _ | .bytes _ | .object _ | .func _ =>
    -- there is no NaN in these, and they are equal to themselves alone
    cases b <;> simp [equal, canonical, Throughout.leaf_iff, parts.eq_def, NotNaN]

theorem equalItems_iff (as bs : List Value) :
    equalItems as bs = true ↔
      (∀ v ∈ as, v.Throughout NotNaN) ∧ (∀ v ∈ bs, v.Throughout NotNaN) ∧
      canonicalItems as = canonicalItems bs := by
  match as, bs with
  | [], [] => simp [equalItems]
  | [], _ :: _ | _ :: _, [] => simp [equalItems, canonicalItems]
  | a :: as, b :: bs =>
    simp [equalItems, canonicalItems, equal_iff a b, equalItems_iff as bs, and_assoc, and_left_comm]

theorem equalEntries_iff {after : Option String} (as bs : Entries after) :
    equalEntries as bs = true ↔
      (∀ entry ∈ as.toList, entry.2.Throughout NotNaN) ∧
        (∀ entry ∈ bs.toList, entry.2.Throughout NotNaN) ∧
        canonicalEntries as = canonicalEntries bs := by
  match as, bs with
  | .nil, .nil => simp [equalEntries, Entries.toList]
  | .nil, .cons .. | .cons .., .nil => simp [equalEntries, canonicalEntries]
  | .cons k _ a as, .cons l _ b bs =>
    by_cases hkey : k = l
    · subst hkey
      simp [equalEntries, canonicalEntries, Entries.toList, equal_iff a b, equalEntries_iff as bs,
        and_assoc, and_left_comm]
    · simp [equalEntries, canonicalEntries, hkey]

end

/-- **Two values are equal exactly if neither holds a NaN and they differ in the signs of zeros at
most (`canonical`).** -/
theorem beq_iff {a b : Value} :
    (a == b) = true ↔ a.Throughout NotNaN ∧ b.Throughout NotNaN ∧
    a.canonical = b.canonical := equal_iff a b

/-- **Equality of values is a partial equivalence**, at any depth: it is symmetric and transitive,
and a value is equal to itself exactly if no floating point number in it is a NaN (`NotNaN`). -/
theorem beq_partial_equivalence (a b c : Value) :
    ((a == b) = true → (b == a) = true) ∧ ((a == b) = true → (b == c) = true → (a == c) = true) ∧
      ((a == a) = true ↔ a.Throughout NotNaN) := by
  refine ⟨fun hab => ?_, fun hab hbc => ?_, fun haa => ?_, fun ha => ?_⟩
  · obtain ⟨ha, hb, hab⟩ := beq_iff.1 hab
    exact beq_iff.2 ⟨hb, ha, hab.symm⟩
  · obtain ⟨ha, -, hab⟩ := beq_iff.1 hab
    obtain ⟨-, hc, hbc⟩ := beq_iff.1 hbc
    exact beq_iff.2 ⟨ha, hc, hab.trans hbc⟩
  · exact (beq_iff.1 haa).1
  · exact beq_iff.2 ⟨ha, ha, rfl⟩

/-- Maps of lists with zeros of both signs, and with a NaN. -/
theorem beq_partial_equivalence_zeros :
    let v (x : Float) : Value := .map
      (.ofPairs [("b", .func (.builtin .upper)), ("a", .list [.float x, .object .process])])
    (v 0 == v (-0)) = true ∧ (v (-0) == v 0) = true ∧ (v 0 == v 0) = true ∧
      ¬ (v (0 / 0)).Throughout NotNaN := by
  intro v
  have hzeros : (v 0 == v (-0)) = true := by decide
  have hback : (v (-0) == v 0) = true := (beq_partial_equivalence (v 0) (v (-0)) (v 0)).1 hzeros
  have hself := (beq_partial_equivalence (v 0) (v (-0)) (v 0)).2.1 hzeros hback
  have hnan : (v (0 / 0) == v (0 / 0)) = false := by decide
  refine ⟨hzeros, hback, hself, fun h => ?_⟩
  exact absurd ((beq_partial_equivalence (v (0 / 0)) (v 0) (v 0)).2.2.2 h)
    (Bool.eq_false_iff.1 hnan)

end Value
end Interpolation
