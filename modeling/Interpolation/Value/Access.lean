import Interpolation.Host
import Interpolation.Number.Integer
import Interpolation.Text.Octets

/-!
# Items and members of values

Items and members of values.
-/

namespace Interpolation.Value

variable {σ : Type}

/-- The text that a value stands for as a key. -/
def keyText? : Value → Option String
  | .str s => some s
  | .int n => some (Number.writeInt64 n)
  | .bool b => some (if b then "true" else "false")
  | .bytes octets => some (Text.readOctets octets)
  | _ => Option.none

/-- The position that a value stands for in a list. -/
def position? : Value → Option Int64
  | .int n => some n
  | .str s => Number.readInt64? s.toList
  | _ => Option.none

/-- The item at `position`. A negative position counts from the end. -/
def index? {α : Type} (items : List α) (position : Int64) : Option α :=
  let i := position.toInt
  let i := if i < 0 then items.length + i else i
  if 0 ≤ i then items[i.toNat]? else Option.none

/-- The item of `value` for `key`: the entry of a map under the text of the key (`keyText?`), the
item of a list at its position (`position?`), or the field of an object by the text in lowercase. -/
def item (host : Host σ) (value key : Value) : StateM σ (Option Value) :=
  match value with
  | .map entries => return (keyText? key).bind entries.get?
  | .list items => return (position? key).bind (index? items)
  | .object o =>
    match keyText? key with
    | some name => host.fieldOf o (Text.lowerCase name)
    | Option.none => return Option.none
  | _ => return Option.none

/-- The records that a value gives access to, which only an object does. -/
def manager? (host : Host σ) : Value → StateM σ (Option (Manager σ))
  | .object o => host.managerOf o
  | _ => return Option.none

/-- The member of `value` by a name in lowercase: the field of an object or the entry of a map. -/
def member (host : Host σ) (value : Value) (name : String) : StateM σ (Option Value) :=
  match value with
  | .object o => host.fieldOf o name
  | .map entries => return entries.get? name
  | _ => return Option.none

end Interpolation.Value
