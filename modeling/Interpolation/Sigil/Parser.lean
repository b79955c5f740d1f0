import Interpolation.Number.Integer
import Interpolation.Sigil
import Interpolation.Token.Lexer

/-!
# Reading a sigil from its tokens

Reading a sigil from its tokens, one token at a time. The grammar is

    sigil    := OPENING node ("." member)* CLOSING
    node     := IDENTIFIER ["=" argument]
    member   := (IDENTIFIER | NUMBER) ["=" argument]
    argument := sigil | STRING | ["-"] NUMBER | IDENTIFIER

and the state of the reader is the part of the tree read so far, with the sigils that wait for an
argument kept on a stack.
-/

namespace Interpolation

open Text

/-- A sigil that is not closed yet: its opening delimiter and its complete nodes, last one first. -/
structure Opened where
  opening : Span
  nodes : List Node

/-- What has been read of the node at hand, hence what may follow. -/
inductive Progress where
  /-- Nothing, and it is the first node of its sigil. -/
  | root
  /-- Nothing, and it is a later node. -/
  | member
  | named (name : Name)
  | assigned (name : Name)
  | negated (name : Name) (minus : Span)
  /-- All of it. -/
  | complete (node : Node)

inductive Reading where
  | start
  /-- A part of a sigil, inside the sigils and nodes whose argument it is, innermost first. -/
  | inside (outer : List (Opened × Name)) (sigil : Opened) (progress : Progress)
  | done (sigil : Sigil)

/-- Identifiers that are literals where an argument is expected. -/
def keyword? (name : String) : Option Literal :=
  if name ∈ ["true", "True"] then some (.bool true)
  else if name ∈ ["false", "False"] then some (.bool false)
  else if name ∈ ["NULL", "null", "None"] then some .null
  else none

/-- A place of the source and what is at fault there. -/
abbrev Misread := Fault × Span

/-- The value of `digits`, with a minus sign before them or not. -/
def readLiteral (negative : Bool) (digits : List Char) (span : Span) : Except Misread Argument :=
  match Number.readDigits? negative digits with
  | some n => .ok (.literal (.integer n) span)
  | none => .error (.integerLiteralRange, span)

def unquote (cs : List Char) : String := String.ofList (cs.tail.dropLast)

def Token.name (t : Token) : Name := ⟨String.ofList t.text, t.span⟩

def Token.refuse (t : Token) (expected : Expectation) : Misread :=
  (.unexpected expected (some t.kind), t.span)

/-- The chain of nodes of which `earlier` come last one first. -/
def chain (last : Node) (after : List Node) : (earlier : List Node) → Span → Sigil
  | [], span => .mk last after span
  | node :: earlier, span => chain node (last :: after) earlier span

/-- The sigil that a closing delimiter completes, with `last` as its last node. -/
def Opened.close (sigil : Opened) (last : Node) (closing : Span) : Sigil :=
  chain last [] sigil.nodes (sigil.opening.join closing)

namespace Reading

def afterNode (outer : List (Opened × Name)) (sigil : Opened) (node : Node) (t : Token) :
    Except Misread Reading :=
  match t.kind with
  | .dot => .ok (.inside outer { sigil with nodes := node :: sigil.nodes } .member)
  | .closing =>
    let closed := sigil.close node t.span
    match outer with
    | [] => .ok (.done closed)
    | (parent, name) :: outer =>
      .ok (.inside outer parent (.complete (.withArgument name (.sigil closed))))
  | _ => .error (t.refuse .memberOrClosing)

def argument (outer : List (Opened × Name)) (sigil : Opened) (name : Name) (t : Token) :
    Except Misread Reading :=
  let complete (a : Argument) : Reading := .inside outer sigil (.complete (.withArgument name a))
  match t.kind with
  | .opening => .ok (.inside ((sigil, name) :: outer) ⟨t.span, []⟩ .root)
  | .string => .ok (complete (.literal (.string (unquote t.text)) t.span))
  | .number => (readLiteral false t.text t.span).map complete
  | .minus => .ok (.inside outer sigil (.negated name t.span))
  | .identifier =>
    match keyword? t.name.text with
    | some value => .ok (complete (.literal value t.span))
    | none => .ok (complete (.variable t.name))
  | _ => .error (t.refuse .argument)

def step (r : Reading) (t : Token) : Except Misread Reading :=
  match r with
  | .start =>
    if t.kind = .opening then .ok (.inside [] ⟨t.span, []⟩ .root)
    else .error (t.refuse (.token .opening))
  | .done _ => .error (t.refuse .nothing)
  | .inside outer sigil progress =>
    match progress with
    | .root =>
      if t.kind = .identifier then .ok (.inside outer sigil (.named t.name))
      else .error (t.refuse (.token .identifier))
    | .member =>
      if t.kind = .identifier ∨ t.kind = .number then .ok (.inside outer sigil (.named t.name))
      else .error (t.refuse .member)
    | .named name =>
      if t.kind = .equals then .ok (.inside outer sigil (.assigned name))
      else afterNode outer sigil (.bare name) t
    | .assigned name => argument outer sigil name t
    | .negated name minus =>
      if t.kind = .number then
        (readLiteral true t.text (minus.join t.span)).map fun a =>
          .inside outer sigil (.complete (.withArgument name a))
      else .error (t.refuse (.token .number))
    | .complete node => afterNode outer sigil node t

/-- What is missing at the end of a source, unless all of a sigil has been read. -/
def finish : Reading → Except Expectation Sigil
  | .start => .error (.token .opening)
  | .done sigil => .ok sigil
  | .inside _ _ progress =>
    match progress with
    | .root => .error (.token .identifier)
    | .member => .error .member
    | .named _ | .complete _ => .error (.token .closing)
    | .assigned _ => .error .argument
    | .negated .. => .error (.token .number)

end Reading

/-- Reads a sigil from the tokens of a source that takes `length` bytes. -/
def Lexed.sigil (lexed : Lexed) (length : Nat) : Except Misread Sigil := do
  let tokens := lexed.tokens.filter (·.kind ≠ .blank)
  let reading ← tokens.foldlM Reading.step .start
  match lexed.fault with
  | some misread => .error misread
  | none => reading.finish.mapError fun expected => (.unexpected expected none, ⟨length, length⟩)

/-- Reads a sigil with its delimiters, from the tokens of `Delimiters.lex`. -/
def Delimiters.parse [IdentifierRule] (d : Delimiters) (source : String) : Except Error Sigil :=
  ((d.lex source).sigil (byteLength source.toList)).mapError fun (fault, span) =>
    (Error.of fault).locate source span

end Interpolation
