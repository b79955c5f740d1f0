import Interpolation.Builtin.Numeric
import Interpolation.Parameter
import Interpolation.Text.Case
import Interpolation.Text.Search
import Interpolation.Value.Access
import Interpolation.Value.Conversion
import Interpolation.Value.Format

/-!
# Calls of builtin functions

What the builtin functions do.
-/

namespace Interpolation.Builtin

open Text

variable {σ : Type}

/-- The items as text, with `separator` between them, a comma if it is not given. -/
def joinItems (host : Host σ) (items : List Value) (separator : Option String) : Eval σ String := do
  let pieces ← Value.formatAll host items
  return String.ofList (joinWith (separator.getD ",").toList (pieces.map String.toList))

/-- The pieces between the occurrences of `separator`, or the words if there is none. -/
def splitText (s : String) (separator : Option String) : List String :=
  let pieces :=
    match separator with
    | some separator => if separator = "" then words s.toList else splitOn separator.toList s.toList
    | none => words s.toList
  pieces.map String.ofList

def wordAt (s : String) (position : Int64) : Option String :=
  (Value.index? (words s.toList) position).map String.ofList

/-- The number of characters, bytes, items or entries. -/
def size : Value → Except Error Nat
  | .str s => .ok s.length
  | .bytes octets => .ok octets.length
  | .list items => .ok items.length
  | .map entries => .ok entries.toList.length
  | v => .error (.of (.unsupported "LEN" v.kind))

/-- The characters or items in reverse order. -/
def reversed : Value → Except Error Value
  | .str s => .ok (.str (String.ofList s.toList.reverse))
  | .list items => .ok (.list items.reverse)
  | v => .error (.of (.unsupported "REVERSE" v.kind))

/-- Stars in place of all but the last `keep` characters, four if it is not given. -/
def masked (s : String) (keep : Option Int64) : String :=
  let cs := s.toList
  let hidden := cs.length - ((keep.map Int64.toInt).getD 4).toNat
  String.ofList (List.replicate hidden '*' ++ cs.drop hidden)

/-- The consequent if the condition holds, else an empty text. -/
def consequent (condition value : Value) : Value :=
  if condition.isTruthy then value else .str ""

/-- The value, or the fallback in place of none and of an empty text. -/
def fallback : Value → Value → Value
  | .none, other => other
  | .str "", other => other
  | v, _ => v

/-- The result of a builtin function. The item of an object is a field that the host looks up, and
its text is one that the host gives; nothing else of a result depends on the host. -/
def call (host : Host σ) (b : Builtin) (args : List Value) : Eval σ Value := do
  let v ← readArgument Value args 0
  let w ← readArgument Value args 1
  match b with
  | upper => return .str (upperCase (← readArgument String args 0))
  | lower => return .str (lowerCase (← readArgument String args 0))
  | trim => return .str (String.ofList (Text.trim (← readArgument String args 0).toList))
  | join =>
    return .str (← joinItems host (← readArgument (List Value) args 0)
      (← readArgument (Option String) args 1))
  | split =>
    return toValue (splitText (← readArgument String args 0)
      (← readArgument (Option String) args 1))
  | word => return toValue (wordAt (← readArgument String args 0) (← readArgument Int64 args 1))
  | item => return (← Value.item host v w).getD .none
  | len => return toValue (← size v)
  | first => return toValue (← readArgument (List Value) args 0).head?
  | last => return toValue (← readArgument (List Value) args 0).getLast?
  | reverse => reversed v
  | mask =>
    return .str (masked (← readArgument String args 0) (← readArgument (Option Int64) args 1))
  | .if => return consequent v w
  | null => return fallback v w
  | not => return .bool !v.isTruthy
  | add => sum v w
  | sub => difference v w
  | mul => product v w
  | div => quotient v w
  | mod => remainder v w
  | eq => return .bool (same v w)
  | ne => return .bool !same v w
  | lt => return .bool (← order v w).isLT
  | le => return .bool (← order v w).isLE
  | gt => return .bool (← order v w).isGT
  | ge => return .bool (← order v w).isGE
  | str => return .str (← v.format host)
  | int => return .int (← toInteger v)
  | float => return .float (← toFloating v)

end Interpolation.Builtin

namespace Interpolation

/-- Calls a function with arguments, as many as it takes (`fitArguments`). -/
def Host.callRef {σ : Type} (host : Host σ) (f : FunctionRef) (args : List Value) : Eval σ Value :=
  let args := fitArguments f.arity args
  match f with
  | .builtin b => b.call host args
  | .host id _ => host.call id args

end Interpolation
