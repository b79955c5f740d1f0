import Interpolation.Delimiters
import Interpolation.Error
import Interpolation.Text.Identifier
import Interpolation.Text.Search

/-!
# Cutting a source into tokens

Cutting the source of a sigil into tokens. The texts of the tokens follow each other without gaps,
up to the end of the source or to the first character that begins no token.
-/

namespace Interpolation

open Text

def isTokenBlank (c : Char) : Bool := c ∈ [' ', '\t', '\n', '\r']

def isQuote (c : Char) : Bool := c ∈ ['\'', '"']

/-- What stands at the beginning of a source: a token's kind, its text and the rest, or a fault and
the text that is at fault. -/
inductive Lexeme where
  | token (kind : TokenKind) (text rest : List Char)
  | fault (fault : Fault) (text : List Char)

/-- The tokens of a source, blanks included, and the fault that ends them, if any. -/
structure Lexed where
  tokens : List Token
  fault : Option (Fault × Span)
  deriving DecidableEq

/-- A token that goes on as long as its characters pass `p`. -/
def Lexeme.run (kind : TokenKind) (p : Char → Bool) (c : Char) (cs : List Char) : Lexeme :=
  .token kind (c :: cs.takeWhile p) (cs.dropWhile p)

/-- A string up to the next `quote`, which matches its first one. There are no escapes. -/
def Lexeme.quoted (quote : Char) (cs : List Char) : Lexeme :=
  match cs.dropWhile (· ≠ quote) with
  | [] => .fault .undelimitedString (quote :: cs)
  | _ :: rest => .token .string (quote :: cs.takeWhile (· ≠ quote) ++ [quote]) rest

theorem eq_of_quoted {quote : Char} {cs text rest : List Char} {kind : TokenKind}
    (h : Lexeme.quoted quote cs = .token kind text rest) :
    quote :: cs = text ++ rest ∧ text ≠ [] := by
  unfold Lexeme.quoted at h
  split at h
  · exact Lexeme.noConfusion h
  · next q r hd =>
    obtain ⟨-, rfl, rfl⟩ := Lexeme.token.inj h
    have hq : q = quote := by
      have := List.head?_dropWhile_not (· ≠ quote) cs
      rw [hd] at this
      simpa using this
    have := List.takeWhile_append_dropWhile (p := (· ≠ quote)) (l := cs)
    rw [hd, hq] at this
    exact ⟨congrArg (quote :: ·) (this.symm.trans (by simp)), by simp⟩

variable [IdentifierRule]

/-- The first lexeme of a source that begins with `c`. Delimiters come before all other tokens. -/
def Delimiters.lexeme (d : Delimiters) (c : Char) (cs : List Char) : Lexeme :=
  match stripStart? d.opening (c :: cs) with
  | some rest => .token .opening d.opening rest
  | none =>
    match stripStart? d.closing (c :: cs) with
    | some rest => .token .closing d.closing rest
    | none =>
      if c = '.' then .token .dot [c] cs
      else if c = '=' then .token .equals [c] cs
      else if c = '-' then .token .minus [c] cs
      else if isQuote c then .quoted c cs
      else if c.isDigit then .run .number Char.isDigit c cs
      else if isTokenBlank c then .run .blank isTokenBlank c cs
      else if startsIdentifier c then .run .identifier continuesIdentifier c cs
      else .fault .unexpectedCharacter [c]

/-- A token has some text, and that text stands at the beginning of the source. -/
theorem Delimiters.eq_of_lexeme {d : Delimiters} {c : Char} {cs text rest : List Char}
    {kind : TokenKind} (h : d.lexeme c cs = .token kind text rest) :
    c :: cs = text ++ rest ∧ text ≠ [] := by
  unfold lexeme at h
  split at h
  · next hs =>
    obtain ⟨-, rfl, rfl⟩ := Lexeme.token.inj h
    exact ⟨stripStart?_eq_some.1 hs, d.opening_ne_nil⟩
  split at h
  · next hs =>
    obtain ⟨-, rfl, rfl⟩ := Lexeme.token.inj h
    exact ⟨stripStart?_eq_some.1 hs, d.closing_ne_nil⟩
  repeat' split at h
  all_goals first
    | exact eq_of_quoted h
    | exact Lexeme.noConfusion h
    | (obtain ⟨-, rfl, rfl⟩ := Lexeme.token.inj h; simp [List.takeWhile_append_dropWhile])

theorem Delimiters.length_lt_of_lexeme {d : Delimiters} {c : Char} {cs text rest : List Char}
    {kind : TokenKind} (h : d.lexeme c cs = .token kind text rest) :
    rest.length < (c :: cs).length := by
  obtain ⟨he, hn⟩ := eq_of_lexeme h
  have := List.length_pos_iff.2 hn
  rw [he, List.length_append]
  omega

/-- Cuts a source that starts at `offset` into tokens, one `lexeme` after another. -/
def Delimiters.lexFrom (d : Delimiters) (offset : Nat) (cs : List Char) : Lexed :=
  match cs with
  | [] => ⟨[], none⟩
  | c :: cs =>
    match h : d.lexeme c cs with
    | .fault fault text => ⟨[], some (fault, ⟨offset, offset + byteLength text⟩)⟩
    | .token kind text rest =>
      have := length_lt_of_lexeme h
      let lexed := lexFrom d (offset + byteLength text) rest
      ⟨⟨kind, offset, text⟩ :: lexed.tokens, lexed.fault⟩
termination_by cs.length
decreasing_by exact this

def Delimiters.lex (d : Delimiters) (source : String) : Lexed := d.lexFrom 0 source.toList

end Interpolation
