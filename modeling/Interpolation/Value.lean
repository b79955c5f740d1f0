import Interpolation.Builtin
import Interpolation.Kind
import Interpolation.Sigil

/-!
# Values

The data that a context holds and that sigils resolve to. Functions and objects are known by
instance; what they do is up to the host (`Host`). A map has each of its keys once and in order,
which its entries are built to say: each key comes after the one before (`Entries.cons`).
-/

namespace Interpolation

/-- An instance of a function. A function of the host takes a fixed number of arguments or any
number. -/
inductive FunctionRef where
  | builtin (b : Builtin)
  | host (id : Nat) (arity : Option Nat)
  deriving DecidableEq

/-- The number of arguments, unless the function takes any number. -/
def FunctionRef.arity : FunctionRef → Option Nat
  | .builtin b => b.arity
  | .host _ arity => arity

/-- An instance of an object: the running process, a view of its environment, or an object of the
host. -/
inductive ObjectRef where
  | process
  | environment (id : Nat)
  | host (id : Nat)
  deriving DecidableEq

mutual

inductive Value where
  | none
  | bool (b : Bool)
  | int (n : Int64)
  | float (x : Float)
  | str (s : String)
  | bytes (octets : List UInt8)
  | list (items : List Value)
  | map (entries : Entries .none)
  | object (o : ObjectRef)
  | func (f : FunctionRef)

/-- Entries whose keys come after `after`, if it is given. -/
inductive Entries : (after : Option String) → Type where
  | nil {after : Option String} : Entries after
  | cons {after : Option String} (key : String) (h : ∀ k ∈ after, k < key) (value : Value)
    (rest : Entries (some key)) : Entries after

end

instance : Inhabited Value := ⟨.none⟩

namespace Entries

def toList {after : Option String} : Entries after → List (String × Value)
  | nil => []
  | cons key _ value rest => (key, value) :: rest.toList

/-- The entries with `key` bound to `value`, in place of the value it had. -/
def insertAfter {after : Option String} (key : String) (h : ∀ k ∈ after, k < key) (value : Value) :
    Entries after → Entries after
  | nil => cons key h value nil
  | cons k hk v rest =>
    if hlt : key < k then cons key h value (cons k (by simpa using hlt) v rest)
    else if heq : key = k then cons k hk value rest
    else
      have hgt : k < key := Std.lt_of_le_of_ne (Std.not_lt.1 hlt) (Ne.symm heq)
      cons k hk v (rest.insertAfter key (by simpa using hgt) value)

def insert (entries : Entries none) (key : String) (value : Value) : Entries none :=
  entries.insertAfter key nofun value

/-- The entries of pairs in any order, later pairs winning. -/
def ofPairs (pairs : List (String × Value)) : Entries none :=
  pairs.foldl (fun entries (key, value) => entries.insert key value) nil

/-- The value of a key. -/
def get? {after : Option String} (entries : Entries after) (key : String) : Option Value :=
  entries.toList.lookup key

end Entries

def Literal.value : Literal → Value
  | .null => .none
  | .bool b => .bool b
  | .integer n => .int n
  | .string s => .str s

namespace Value

def kind : Value → Kind
  | .none => .none
  | .bool _ => .bool
  | .int _ => .integer
  | .float _ => .float
  | .str _ => .string
  | .bytes _ => .bytes
  | .list _ => .list
  | .map _ => .map
  | .object _ => .object
  | .func _ => .function

def isNone : Value → Bool
  | .none => true
  | _ => false

def string? : Value → Option String
  | .str s => some s
  | _ => Option.none

/-- The value counts as true in a condition: it is neither nothing, nor zero, nor empty. -/
def isTruthy : Value → Bool
  | .none => false
  | .bool b => b
  | .int n => n != 0
  | .float x => x != 0
  | .str s => s != ""
  | .bytes octets => !octets.isEmpty
  | .list items => !items.isEmpty
  | .map entries => !entries.toList.isEmpty
  | .object _ | .func _ => true

mutual

/-- Values of one kind with equal contents. Objects and functions are equal if they are the same
instance, and floating point numbers as numbers, so that no value that holds a NaN is equal to
itself. -/
def equal : Value → Value → Bool
  | .none, .none => true
  | .bool a, .bool b => a == b
  | .int a, .int b => a == b
  | .float a, .float b => a == b
  | .str a, .str b => a == b
  | .bytes a, .bytes b => a == b
  | .list a, .list b => equalItems a b
  | .map a, .map b => equalEntries a b
  | .object a, .object b => a == b
  | .func a, .func b => a == b
  | _, _ => false

def equalItems : List Value → List Value → Bool
  | [], [] => true
  | a :: as, b :: bs => equal a b && equalItems as bs
  | _, _ => false

def equalEntries {after after' : Option String} : Entries after → Entries after' → Bool
  | .nil, .nil => true
  | .cons k _ a as, .cons l _ b bs => k == l && equal a b && equalEntries as bs
  | _, _ => false

end

instance : BEq Value := ⟨equal⟩

end Value
end Interpolation
