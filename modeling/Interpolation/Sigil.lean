import Interpolation.Text.Utf8

/-!
# Sigils as trees

Sigils as trees: a chain of named nodes, each with at most one argument, which may be a sigil again.
At a glance a sigil is its source and the names of its chain (`Sigil.summary`).
-/

namespace Interpolation

structure Name where
  text : String
  span : Span
  deriving DecidableEq

inductive Literal where
  | null
  | bool (b : Bool)
  | integer (n : Int64)
  | string (s : String)
  deriving DecidableEq

mutual

/-- A chain of nodes between delimiters: the root and the members after it. -/
inductive Sigil where
  | mk (root : Node) (members : List Node) (span : Span)

inductive Node where
  | mk (name : Name) (argument : Option Argument) (span : Span)

/-- A sigil, a name that is looked up, or a literal. -/
inductive Argument where
  | sigil (s : Sigil)
  | variable (name : Name)
  | literal (value : Literal) (span : Span)

end

namespace Sigil

def root : Sigil → Node
  | .mk root _ _ => root

def members : Sigil → List Node
  | .mk _ members _ => members

def span : Sigil → Span
  | .mk _ _ span => span

def nodes (s : Sigil) : List Node := s.root :: s.members

end Sigil

namespace Node

def name : Node → Name
  | .mk name _ _ => name

def argument : Node → Option Argument
  | .mk _ argument _ => argument

def span : Node → Span
  | .mk _ _ span => span

end Node

def Argument.span : Argument → Span
  | .sigil s => s.span
  | .variable name => name.span
  | .literal _ span => span

/-- A node without an argument stands where its name does. -/
def Node.bare (name : Name) : Node := .mk name none name.span

/-- A node with an argument stands from its name to its argument. -/
def Node.withArgument (name : Name) (argument : Argument) : Node :=
  .mk name (some argument) (name.span.join argument.span)

/-- How a character is written between quotation marks. -/
def Text.escape : Char → List Char
  | '"' => ['\\', '"']
  | '\\' => ['\\', '\\']
  | '\n' => ['\\', 'n']
  | '\t' => ['\\', 't']
  | '\r' => ['\\', 'r']
  | c => [c]

/-- The text between quotation marks, each character by `escape`. -/
def Text.quote (s : String) : String := String.ofList ('"' :: s.toList.flatMap escape ++ ['"'])

namespace Sigil

def names (s : Sigil) : List String := s.nodes.map fun node => node.name.text

/-- The source and the names, quoted. -/
def summary (s : Sigil) (source : String) : String :=
  "Sigil \x7b source: " ++ Text.quote source ++ ", names: [" ++
    ", ".intercalate (s.names.map Text.quote) ++ "] \x7d"

end Sigil
end Interpolation
