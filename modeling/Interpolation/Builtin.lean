/-!
# Builtin functions

The functions that every new context starts with, by name.
-/

namespace Interpolation

inductive Builtin where
  | upper
  | lower
  | trim
  | join
  | split
  | word
  | item
  | len
  | first
  | last
  | reverse
  | mask
  | if
  | null
  | not
  | add
  | sub
  | mul
  | div
  | mod
  | eq
  | ne
  | lt
  | le
  | gt
  | ge
  | str
  | int
  | float
  deriving DecidableEq

namespace Builtin

def all : List Builtin :=
  [upper, lower, trim, join, split, word, item, len, first, last, reverse, mask, .if, null, not,
    add, sub, mul, div, mod, eq, ne, lt, le, gt, ge, str, int, float]

/-- The key that `Context.builtins` binds the function to. -/
def name : Builtin → String
  | upper => "UPPER"
  | lower => "LOWER"
  | trim => "TRIM"
  | join => "JOIN"
  | split => "SPLIT"
  | word => "WORD"
  | item => "ITEM"
  | len => "LEN"
  | first => "FIRST"
  | last => "LAST"
  | reverse => "REVERSE"
  | mask => "MASK"
  | .if => "IF"
  | null => "NULL"
  | not => "NOT"
  | add => "ADD"
  | sub => "SUB"
  | mul => "MUL"
  | div => "DIV"
  | mod => "MOD"
  | eq => "EQ"
  | ne => "NE"
  | lt => "LT"
  | le => "LE"
  | gt => "GT"
  | ge => "GE"
  | str => "STR"
  | int => "INT"
  | float => "FLOAT"

/-- The number of arguments the function takes. -/
def arity : Builtin → Nat
  | upper | lower | trim | len | first | last | reverse | not | str | int | float => 1
  | _ => 2

end Builtin
end Interpolation
