import Interpolation.Error
import Interpolation.Table
import Interpolation.Text.Case

/-!
# Contexts

What the names in sigils stand for. A context is a stack of layers on a base that is never removed,
and an inner layer hides the ones outside it. Keys are kept in uppercase. Beside its layers a
context keeps the values that sigils resolved to, for as long as no layer comes or goes.
-/

namespace Interpolation

open Text

structure Context where
  /-- Tells contexts apart. -/
  id : Nat
  base : Table
  /-- The layers above the base, innermost first. -/
  pushed : List Table
  /-- The values of sigils by their text. -/
  cache : Table

/-- A layer that was pushed: the context and the number of layers above its base then. -/
structure Handle where
  context : Nat
  depth : Nat
  deriving DecidableEq

namespace Context

def empty (id : Nat) : Context := ⟨id, ∅, [], ∅⟩

/-- The layer that new contexts start with: the builtin functions, and the running process. -/
def builtins : Table :=
  (Table.empty.insertAll (Builtin.all.map fun b => (b.name, .func (.builtin b)))).insert "SYS"
    (.object .process)

def new (id : Nat) : Context := { empty id with base := builtins }

/-- The number of layers above `base`. -/
def depth (c : Context) : Nat := c.pushed.length

def layers (c : Context) : List Table := c.pushed ++ [c.base]

/-- The value of `key` as it is written, in the innermost layer that has it. -/
def find? (c : Context) (key : String) : Option Value := c.layers.findSome? (·.get? key)

/-- The value of `key`, as it is written or else in uppercase. -/
def get? (c : Context) (key : String) : Option Value :=
  (c.find? key).or (c.find? (upperCase key))

/-- Binds a key in the innermost layer. What is in `cache` stays. -/
def set (c : Context) (key : String) (value : Value) : Context :=
  match c.pushed with
  | [] => { c with base := c.base.insert (upperCase key) value }
  | layer :: rest => { c with pushed := layer.insert (upperCase key) value :: rest }

def setBase (c : Context) (key : String) (value : Value) : Context :=
  { c with base := c.base.insert (upperCase key) value }

def clearCache (c : Context) : Context := { c with cache := ∅ }

/-- Adds a layer, and empties `cache`. -/
def pushLayer (c : Context) (layer : Table) : Context × Handle :=
  let c := { c with pushed := layer :: c.pushed, cache := ∅ }
  (c, ⟨c.id, c.depth⟩)

/-- Removes the innermost layer, if `h` is the handle of this context at this depth. -/
def pop (c : Context) (h : Handle) : Except Error Context :=
  if h.context ≠ c.id then .error (.of (.foreignLayer h.depth))
  else if h.depth ≠ c.depth ∨ c.depth = 0 then .error (.of (.notInnermost h.depth c.depth))
  else .ok { c with pushed := c.pushed.tail, cache := ∅ }

/-- Removes all layers from `depth` on, that of a scope which is left. -/
def leave (c : Context) (depth : Nat) : Context :=
  if depth ≤ c.depth then
    { c with pushed := c.pushed.drop (c.depth + 1 - depth), cache := ∅ }
  else c

end Context
end Interpolation
