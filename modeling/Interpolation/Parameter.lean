import Interpolation.Error
import Interpolation.Text.Octets
import Interpolation.Value

/-!
# The parameters of functions

A call passes exactly as many arguments as the function takes, surplus ones being dropped and
missing ones none, and each is read as the type of its parameter.
-/

namespace Interpolation

/-- Types that an argument can be read as. -/
class FromValue (α : Type) where
  typeName : String
  fromValue? : Value → Option α

namespace FromValue

instance : FromValue Value := ⟨"value", some⟩

instance : FromValue Bool where
  typeName := "bool"
  fromValue? | .bool b => some b | _ => none

instance : FromValue Int64 where
  typeName := "integer"
  fromValue? | .int n => some n | _ => none

/-- Integers are read as floating point numbers. -/
instance : FromValue Float where
  typeName := "float"
  fromValue? | .float x => some x | .int n => some n.toFloat | _ => none

/-- Bytes are read as text. -/
instance : FromValue String where
  typeName := "string"
  fromValue? | .str s => some s | .bytes octets => some (Text.readOctets octets) | _ => none

instance : FromValue (List Value) where
  typeName := "list"
  fromValue? | .list items => some items | _ => none

instance : FromValue (Entries none) where
  typeName := "map"
  fromValue? | .map entries => some entries | _ => none

/-- An argument that may be missing or none. -/
instance {α : Type} [FromValue α] : FromValue (Option α) where
  typeName := typeName α
  fromValue? | .none => some none | v => (fromValue? v).map some

end FromValue

/-- The arguments that a function is called with: as many as `arity` says, or all. -/
def fitArguments (arity : Option Nat) (args : List Value) : List Value :=
  match arity with
  | some n => (args ++ List.replicate n Value.none).take n
  | none => args

/-- The argument at `position`, read as a type. Positions count from zero. -/
def readArgument (α : Type) [FromValue α] (args : List Value) (position : Nat) : Except Error α :=
  let v := args.getD position .none
  match FromValue.fromValue? v with
  | some a => .ok a
  | none => .error (.of (.argumentType (position + 1) (FromValue.typeName α) v.kind))

end Interpolation
