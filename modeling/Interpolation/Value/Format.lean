import Interpolation.Host
import Interpolation.Number.Decimal
import Interpolation.Text.Octets

/-!
# The text of a value

The text that a value is written as.
-/

namespace Interpolation.Value

variable {σ : Type}

mutual

/-- The text of a value. Objects are asked for theirs. The items of a list are separated by
semicolons; maps, functions and objects without a text have none. -/
def format (host : Host σ) : Value → Eval σ String
  | .none => pure ""
  | .bool b => pure (if b then "true" else "false")
  | .int n => pure (Number.writeInt64 n)
  | .float x => pure (Number.writeFloat x)
  | .str s => pure s
  | .bytes octets => pure (Text.readOctets octets)
  | .list items => (";".intercalate ·) <$> formatAll host items
  | .object o => do
    match ← host.textOf o with
    | some s => return s
    | Option.none => throw (.of (.unformattable .object))
  | .map _ => throw (.of (.unformattable .map))
  | .func _ => throw (.of (.unformattable .function))

/-- The texts of values, up to the first that has none. -/
def formatAll (host : Host σ) : List Value → Eval σ (List String)
  | [] => pure []
  | v :: vs => do
    let s ← format host v
    let ss ← formatAll host vs
    return s :: ss

end

/-- A key as error messages show it: its text, or its kind if it has none. -/
def describe (host : Host σ) (v : Value) : StateM σ String := do
  match ← (v.format host).run with
  | .ok s => return "`" ++ s ++ "`"
  | .error _ => return v.kind.name

end Interpolation.Value
