import Interpolation.Text.CaseTable

/-!
# Full case mapping

The uppercase of a text is that of its characters one by one; the lowercase is so too, but for a
capital sigma, which becomes a final sigma where it ends a word.
-/

namespace Interpolation.Text

def CaseRun.maps (run : CaseRun) (code : Nat) : Bool :=
  run.first ≤ code && code ≤ run.last && (code - run.first) % run.step == 0

/-- The mapping of a character beyond ASCII by `runs` and, where it is longer than one character, by
`expansions`. -/
def mapCase (runs : List CaseRun) (expansions : List (Nat × List Nat)) (c : Char) : List Char :=
  match expansions.lookup c.toNat with
  | some codes => codes.map Char.ofNat
  | none =>
    match runs.find? (·.maps c.toNat) with
    | some run => [Char.ofNat (c.toNat + run.shift).toNat]
    | none => [c]

def upperChar (c : Char) : List Char :=
  if c.toNat < 0x80 then [c.toUpper] else mapCase upperRuns upperExpansions c

def upper (cs : List Char) : List Char := cs.flatMap upperChar

def lowerChar (c : Char) : List Char :=
  if c.toNat < 0x80 then [c.toLower] else mapCase lowerRuns lowerExpansions c

def isCased (c : Char) : Bool :=
  if c.toNat < 0x80 then c.isAlpha else casedRanges.covers c.toNat

def isCaseIgnorable (c : Char) : Bool :=
  if c.toNat < 0x80 then c ∈ ['\'', '.', ':', '^', '`'] else caseIgnorableRanges.covers c.toNat

/-- A cased character comes first once the ignorable ones are skipped. -/
def casedAhead (cs : List Char) : Bool :=
  ((cs.dropWhile isCaseIgnorable).head?.map isCased).getD false

/-- The lowercase of a text that stands after `before`, the characters of which come last one
first. -/
def lowerAfter (before : List Char) : List Char → List Char
  | [] => []
  | c :: cs =>
    (if c = 'Σ' then [if casedAhead before && !casedAhead cs then 'ς' else 'σ'] else lowerChar c) ++
      lowerAfter (c :: before) cs

def lower (cs : List Char) : List Char := lowerAfter [] cs

def upperCase (s : String) : String := String.ofList (upper s.toList)

def lowerCase (s : String) : String := String.ofList (lower s.toList)

end Interpolation.Text
