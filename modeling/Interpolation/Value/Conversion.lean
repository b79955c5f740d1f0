import Interpolation.Number.Integer
import Interpolation.Text.Octets
import Interpolation.Value

/-!
# Values of the types of a program

Values of the types of a program.
-/

namespace Interpolation

/-- Types whose elements become values. -/
class ToValue (α : Type) where
  toValue : α → Value

export ToValue (toValue)

namespace ToValue

instance : ToValue Value := ⟨id⟩

instance : ToValue Unit := ⟨fun _ => .none⟩

instance : ToValue Bool := ⟨.bool⟩

instance : ToValue Int64 := ⟨.int⟩

instance : ToValue Int32 := ⟨fun n => .int n.toInt64⟩

instance : ToValue Int16 := ⟨fun n => .int n.toInt64⟩

instance : ToValue Int8 := ⟨fun n => .int n.toInt64⟩

instance : ToValue UInt32 := ⟨fun n => .int (Int64.ofNat n.toNat)⟩

instance : ToValue UInt16 := ⟨fun n => .int (Int64.ofNat n.toNat)⟩

instance : ToValue UInt8 := ⟨fun n => .int (Int64.ofNat n.toNat)⟩

/-- A number of things. One that is out of range becomes the greatest integer. -/
instance : ToValue Nat := ⟨fun n => .int ((Number.toInt64? n).getD Int64.maxValue)⟩

instance : ToValue Float := ⟨.float⟩

instance : ToValue Float32 := ⟨fun x => .float x.toFloat⟩

instance : ToValue Char := ⟨fun c => .str c.toString⟩

instance : ToValue String := ⟨.str⟩

instance : ToValue ByteArray := ⟨fun bytes => .bytes bytes.toList⟩

instance {α : Type} [ToValue α] : ToValue (Option α) := ⟨fun a => (a.map toValue).getD .none⟩

instance {α : Type} [ToValue α] : ToValue (List α) := ⟨fun as => .list (as.map toValue)⟩

/-- Pairs become a map, later pairs winning. -/
instance {α : Type} [ToValue α] : ToValue (List (String × α)) :=
  ⟨fun pairs => .map (.ofPairs (pairs.map fun (key, a) => (key, toValue a)))⟩

end ToValue
end Interpolation
