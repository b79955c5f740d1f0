import Interpolation.Text.Utf8

/-!
# Tokens

The words that a sigil is made of.
-/

namespace Interpolation

inductive TokenKind where
  | opening
  | closing
  | dot
  | equals
  | minus
  | blank
  | identifier
  | number
  | string
  deriving DecidableEq

def TokenKind.name : TokenKind → String
  | .opening => "begin delimiter"
  | .closing => "end delimiter"
  | .dot => "member access operator"
  | .equals => "argument operator"
  | .minus => "minus"
  | .blank => "whitespace"
  | .identifier => "identifier"
  | .number => "number"
  | .string => "string"

/-- A token, its text and where it starts in the sigil. -/
structure Token where
  kind : TokenKind
  start : Nat
  text : List Char
  deriving DecidableEq

def Token.span (t : Token) : Span := ⟨t.start, t.start + Text.byteLength t.text⟩

/-- What the grammar allows at a place of a sigil. -/
inductive Expectation where
  | token (kind : TokenKind)
  | member
  | argument
  | memberOrClosing
  | nothing
  deriving DecidableEq

def Expectation.name : Expectation → String
  | .token kind => kind.name
  | .member => "identifier or index"
  | .argument => "argument"
  | .memberOrClosing => "member access operator or end delimiter"
  | .nothing => "end of sigil"

end Interpolation
