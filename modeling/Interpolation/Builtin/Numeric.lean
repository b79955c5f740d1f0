import Interpolation.Error
import Interpolation.Number.Decimal
import Interpolation.Text.Classes
import Interpolation.Value

/-!
# Arithmetic and comparison of values

Operands are numbers or the texts of numbers. Integers are computed with exactly and a result out of
range is an error; with a floating point operand all is floating point.
-/

namespace Interpolation.Builtin

/-- An operand of arithmetic. -/
inductive Numeral where
  | int (n : Int64)
  | float (x : Float)

namespace Numeral

def toFloat : Numeral → Float
  | .int n => n.toFloat
  | .float x => x

def isZero : Numeral → Bool
  | .int n => n == 0
  | .float x => x == 0

/-- The number a text stands for: an integer if it is one, else a floating point number. -/
def read? (cs : List Char) : Option Numeral :=
  match Number.readInt64? cs with
  | some n => some (.int n)
  | none => (Number.readFloat? cs).map .float

/-- The number a value stands for. Blanks around the text of a number do not matter. -/
def of? : Value → Option Numeral
  | .int n => some (.int n)
  | .float x => some (.float x)
  | .str s => read? (Text.trim s.toList)
  | _ => none

end Numeral

/-- The number a value stands for, or the fault of `function`, which takes no such value. -/
def numeral (function : String) (v : Value) : Except Error Numeral :=
  match Numeral.of? v with
  | some n => .ok n
  | none => .error (.of (.unsupported function v.kind))

/-- Applies an operation to two operands: `exact` to integers, with no answer where it does not
exist, and `rounded` to all others. -/
def arithmetic (function : String) (exact : Int → Int → Option Int)
    (rounded : Float → Float → Float) (a b : Value) : Except Error Value := do
  let x ← numeral function a
  let y ← numeral function b
  match x, y with
  | .int m, .int n =>
    match (exact m.toInt n.toInt).bind Number.toInt64? with
    | some r => return .int r
    | none => throw (.of (.overflow function))
  | x, y => return .float (rounded x.toFloat y.toFloat)

/-- Refuses a divisor that is zero. -/
def refuseZero (function : String) (b : Value) : Except Error Unit := do
  if (← numeral function b).isZero then throw (.of (.divisionByZero function))

/-- The sum. Two texts that are not both numbers are put together. -/
def sum (a b : Value) : Except Error Value :=
  let total := arithmetic "ADD" (fun m n => some (m + n)) (· + ·) a b
  match a, b with
  | .str s, .str t =>
    if (Numeral.of? a).isSome && (Numeral.of? b).isSome then total else .ok (.str (s ++ t))
  | _, _ => total

def difference : Value → Value → Except Error Value :=
  arithmetic "SUB" (fun m n => some (m - n)) (· - ·)

def product : Value → Value → Except Error Value :=
  arithmetic "MUL" (fun m n => some (m * n)) (· * ·)

/-- The quotient, truncated toward zero for integers. -/
def quotient (a b : Value) : Except Error Value := do
  refuseZero "DIV" b
  arithmetic "DIV" (fun m n => some (m.tdiv n)) (· / ·) a b

/-- The remainder that is not negative. It counts as out of range where `quotient` is. -/
def remainder (a b : Value) : Except Error Value := do
  refuseZero "MOD" b
  arithmetic "MOD" (fun m n => (Number.toInt64? (m.tdiv n)).map fun _ => m.emod n)
    Number.euclideanRemainder a b

/-- The values are equal, an integer and a floating point number as floating point numbers. -/
def same : Value → Value → Bool
  | .int m, .float y => m.toFloat == y
  | .float x, .int n => x == n.toFloat
  | a, b => a == b

/-- The order of two floating point numbers, none if one is a NaN. -/
def compareFloats (x y : Float) : Option Ordering :=
  if x < y then some .lt else if x == y then some .eq else if y < x then some .gt else none

/-- The order of two values, which exists for two texts and for two numbers. -/
def order (a b : Value) : Except Error Ordering :=
  let found :=
    match a, b with
    | .str s, .str t => some (compare s t)
    | .int m, .int n => some (compare m.toInt n.toInt)
    | .int m, .float y => compareFloats m.toFloat y
    | .float x, .int n => compareFloats x n.toFloat
    | .float x, .float y => compareFloats x y
    | _, _ => none
  match found with
  | some o => .ok o
  | none => .error (.of (.incomparable a.kind b.kind))

/-- The integer that a value stands for: zero or one for a truth value, else a number, truncated
toward zero and brought into the range of `Int64`. -/
def toInteger : Value → Except Error Int64
  | .bool b => .ok (if b then 1 else 0)
  | v => do
    match ← numeral "INT" v with
    | .int n => return n
    | .float x => return x.toInt64

def toFloating (v : Value) : Except Error Float := do
  return (← numeral "FLOAT" v).toFloat

end Interpolation.Builtin
