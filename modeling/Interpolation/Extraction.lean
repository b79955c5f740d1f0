import Interpolation.Delimiters
import Interpolation.Text.Search
import Interpolation.Text.Utf8

/-!
# Extraction

The outermost sigils of a text. A text is cut into plain pieces and sigils, and nothing of it is
lost (`text_scan`). Delimiters are balanced by counting, a region with an odd number of single or of
double quotes is plain, and so is everything from an opening delimiter that is never closed.
-/

namespace Interpolation

open Text

/-- A sigil and the plain text before it. -/
structure Piece where
  plain : List Char
  sigil : List Char
  deriving DecidableEq

/-- The sigils of a text with the plain text before each, and the plain text after the last. -/
structure Extraction where
  pieces : List Piece
  tail : List Char
  deriving DecidableEq

namespace Extraction

/-- The text that was cut. -/
def text (e : Extraction) : List Char :=
  e.pieces.flatMap (fun p => p.plain ++ p.sigil) ++ e.tail

/-- Plain text put in front. -/
def prepend (plain : List Char) (e : Extraction) : Extraction :=
  match e.pieces with
  | [] => ⟨[], plain ++ e.tail⟩
  | p :: ps => ⟨⟨plain ++ p.plain, p.sigil⟩ :: ps, e.tail⟩

theorem text_prepend (plain : List Char) (e : Extraction) :
    (e.prepend plain).text = plain ++ e.text := by
  unfold prepend text
  split <;> simp_all

/-- The sigils in order of appearance. -/
def sigils (e : Extraction) : List String := e.pieces.map fun p => String.ofList p.sigil

/-- The regions of the sigils of a text whose pieces begin at `offset`. -/
def spansFrom (offset : Nat) : List Piece → List Span
  | [] => []
  | p :: ps =>
    let start := offset + byteLength p.plain
    let stop := start + byteLength p.sigil
    ⟨start, stop⟩ :: spansFrom stop ps

def spans (e : Extraction) : List Span := spansFrom 0 e.pieces

/-- The plain pieces and `f` of each sigil in its place, in order. -/
def fill (f : String → String) (e : Extraction) : List String :=
  e.pieces.flatMap (fun p => [String.ofList p.plain, f (String.ofList p.sigil)]) ++
    [String.ofList e.tail]

end Extraction

/-- The number of quotes of either kind is even. -/
def balancesQuotes (cs : List Char) : Bool :=
  cs.count '\'' % 2 == 0 && cs.count '"' % 2 == 0

namespace Delimiters

/-- The rest of a region that is open `depth + 1` times, up to the delimiter that closes it, and
what follows that. -/
def close? (d : Delimiters) (depth : Nat) (cs : List Char) : Option (List Char × List Char) :=
  match cs with
  | [] => none
  | c :: cs =>
    match h : stripStart? d.opening (c :: cs) with
    | some rest =>
      have := length_lt_of_stripStart? d.opening_ne_nil h
      (close? d (depth + 1) rest).map fun (inside, after) => (d.opening ++ inside, after)
    | none =>
      match h : stripStart? d.closing (c :: cs) with
      | some rest =>
        have := length_lt_of_stripStart? d.closing_ne_nil h
        match depth with
        | 0 => some (d.closing, rest)
        | depth + 1 =>
          (close? d depth rest).map fun (inside, after) => (d.closing ++ inside, after)
      | none => (close? d depth cs).map fun (inside, after) => (c :: inside, after)
termination_by cs.length
decreasing_by
  · exact this
  · exact this
  · exact Nat.lt_succ_self cs.length

theorem eq_of_close? {d : Delimiters} {depth : Nat} {cs inside after : List Char}
    (h : d.close? depth cs = some (inside, after)) : cs = inside ++ after := by
  fun_induction close? d depth cs generalizing inside with
  | case1 => simp at h
  | case2 depth c cs rest hs _ ih =>
    obtain ⟨⟨i, a⟩, hr, he⟩ := Option.map_eq_some_iff.1 h
    obtain ⟨rfl, rfl⟩ := Prod.mk.inj he
    rw [stripStart?_eq_some.1 hs, ih hr, List.append_assoc]
  | case3 c cs _ rest hs =>
    simp only [Option.some.injEq, Prod.mk.injEq] at h
    rw [stripStart?_eq_some.1 hs, h.1, h.2]
  | case4 c cs _ rest hs _ depth ih =>
    obtain ⟨⟨i, a⟩, hr, he⟩ := Option.map_eq_some_iff.1 h
    obtain ⟨rfl, rfl⟩ := Prod.mk.inj he
    rw [stripStart?_eq_some.1 hs, ih hr, List.append_assoc]
  | case5 depth c cs _ _ ih =>
    obtain ⟨⟨i, a⟩, hr, he⟩ := Option.map_eq_some_iff.1 h
    obtain ⟨rfl, rfl⟩ := Prod.mk.inj he
    rw [ih hr, List.cons_append]

theorem length_le_of_close? {d : Delimiters} {depth : Nat} {cs inside after : List Char}
    (h : d.close? depth cs = some (inside, after)) : after.length ≤ cs.length := by
  rw [eq_of_close? h, List.length_append]
  exact Nat.le_add_left ..

/-- Cuts a text into its outermost sigils, each as far as `close?` goes, and what is plain. -/
def scan (d : Delimiters) (cs : List Char) : Extraction :=
  match cs with
  | [] => ⟨[], []⟩
  | c :: cs =>
    match h : stripStart? d.opening (c :: cs) with
    | none => (scan d cs).prepend [c]
    | some rest =>
      match h' : d.close? 0 rest with
      | none => ⟨[], c :: cs⟩
      | some (inside, after) =>
        have := Nat.lt_of_le_of_lt (length_le_of_close? h')
          (length_lt_of_stripStart? d.opening_ne_nil h)
        let sigil := d.opening ++ inside
        let e := scan d after
        if balancesQuotes sigil then ⟨⟨[], sigil⟩ :: e.pieces, e.tail⟩ else e.prepend sigil
termination_by cs.length
decreasing_by
  · exact Nat.lt_succ_self cs.length
  · exact this

theorem text_scan (d : Delimiters) (cs : List Char) : (d.scan cs).text = cs := by
  fun_induction scan d cs with
  | case1 => rfl
  | case2 c cs h ih => simp [Extraction.text_prepend, ih]
  | case3 => simp [Extraction.text]
  | case4 c cs rest h inside after h' _ sigil e hq ih =>
    rw [stripStart?_eq_some.1 h, eq_of_close? h']
    simp only [Extraction.text] at ih
    simp [Extraction.text, e, sigil, ih]
  | case5 c cs rest h inside after h' _ sigil e hq ih =>
    rw [stripStart?_eq_some.1 h, eq_of_close? h', Extraction.text_prepend, ih]
    simp [sigil]

def extract (d : Delimiters) (text : String) : Extraction := d.scan text.toList

/-- The text holds an opening delimiter and after it a closing one. Without them it holds no sigil.
-/
def mayHoldSigil (d : Delimiters) (text : String) : Bool :=
  match cutAt? d.opening text.toList with
  | some (_, after) => occurs d.closing after
  | none => false

/-- The text with `pattern` in place of each sigil, and the sigils. -/
def hide (d : Delimiters) (pattern text : String) : String × List String :=
  let e := d.extract text
  (String.join (e.fill fun _ => pattern), e.sigils)

end Delimiters

/-- The text with sigils in place of the first occurrences of `pattern`, one each. -/
def restoreFrom (pattern : List Char) : List String → List Char → List Char
  | [], cs => cs
  | sigil :: sigils, cs =>
    match cutAt? pattern cs with
    | none => cs
    | some (before, after) => before ++ sigil.toList ++ restoreFrom pattern sigils after

/-- Puts sigils back in place of `pattern`, where `Delimiters.hide` took them from. Occurrences
beyond the number of sigils stay, and an empty pattern occurs nowhere. -/
def restore (pattern : String) (sigils : List String) (text : String) : String :=
  if pattern = "" then text
  else String.ofList (restoreFrom pattern.toList sigils text.toList)

end Interpolation
