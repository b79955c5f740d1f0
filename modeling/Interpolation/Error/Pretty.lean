import Interpolation.Error
import Interpolation.Text.Width

/-!
# Drawn errors

Errors drawn under the line of the source that they point at.
-/

namespace Interpolation

open Text

/-- The lines of a text, each without the line feed that ends it. -/
def lines : List Char → List (List Char)
  | [] => []
  | c :: cs =>
    if c = '\n' then [] :: lines cs
    else
      match lines cs with
      | [] => [[c]]
      | line :: rest => (c :: line) :: rest

variable [DisplayWidth]

/-- The line that holds an offset, the number of lines before it and the columns before the offset.
Past the last line this is the end of that line, which `before` and `last` describe. -/
def findOffset? (before : Nat) (last : List Char) (offset : Nat) :
    List (List Char) → Option (List Char × Nat × Nat)
  | [] => some (last, before - 1, width last)
  | line :: rest =>
    let length := byteLength line + 1
    if offset < length then
      (splitAtByte? offset line).map fun (left, _) => (line, before, width left)
    else findOffset? (before + 1) line (offset - length) rest

/-- The numbered line and below it carets under the region, at least one, with `message`. Nothing if
the region is no region of the source. -/
def Location.draw? (l : Location) (message : String) : Option String := do
  let (line, before, column) ← findOffset? 0 [] l.span.start (lines l.source.toList)
  let region ← slice? l.span.start l.span.stop l.source.toList
  let number := toString (before + 1)
  let gutter := String.ofList (List.replicate number.length ' ')
  let carets := String.ofList
    (List.replicate column ' ' ++ List.replicate (max 1 (width region)) '^')
  return "\n " ++ gutter ++ " |\n " ++ number ++ " | " ++ String.ofList line ++
    "\n " ++ gutter ++ " | " ++ carets ++ " " ++ message ++ "\n"

/-- The error drawn at its place (`Location.draw?`), or the message of an error without one. -/
def Error.pretty (e : Error) : String :=
  match e.location with
  | some l => (l.draw? e.message).getD e.message
  | none => e.message

end Interpolation
