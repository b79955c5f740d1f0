/-!
# Kinds of values

The kinds of values, as error messages name them.
-/

namespace Interpolation

inductive Kind where
  | none
  | bool
  | integer
  | float
  | string
  | bytes
  | list
  | map
  | object
  | function
  deriving DecidableEq

def Kind.name : Kind → String
  | .none => "none"
  | .bool => "bool"
  | .integer => "integer"
  | .float => "float"
  | .string => "string"
  | .bytes => "bytes"
  | .list => "list"
  | .map => "map"
  | .object => "object"
  | .function => "function"

end Interpolation
