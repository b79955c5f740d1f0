import Interpolation.Number.Integer
import Interpolation.Number.Binary64

/-!
# Floating point numbers as decimal text

A number is written in the fewest digits that read back as it, never with an exponent; it is read
with an optional sign, point and exponent, or as a name.
-/

namespace Interpolation.Number

/-- The numbers nearest to a positive value among the multiples of a power of ten are compared with
it in whole units: `step` is the power of ten and `scale` a quarter of the last bit of the value. -/
structure Grid where
  step : Nat
  scale : Nat

/-- The grid of multiples of `10 ^ power` for values in multiples of `2 ^ exponent`. -/
def Grid.of (power exponent : Int) : Grid :=
  let quarter := exponent - 2
  { step := Nat.pow 10 power.toNat <<< (-quarter).toNat
    scale := Nat.pow 10 (-power).toNat <<< quarter.toNat }

/-- The multiple on the grid that is nearest to the value of `s`, among those that round to that
value; of two that are equally near the greater. A value takes the ends of its rounding interval if
its mantissa is even, and the interval is narrower below a power of two. -/
def Grid.nearest? (grid : Grid) (s : Scaled) : Option Nat :=
  let centre := 4 * s.mantissa * grid.scale
  let below := if s.mantissa = leadingBit ∧ leastExponent < s.exponent then 1 else 2
  let low := (4 * s.mantissa - below) * grid.scale
  let high := (4 * s.mantissa + 2) * grid.scale
  let holds (n : Nat) : Bool :=
    if s.mantissa % 2 = 0 then low ≤ n * grid.step && n * grid.step ≤ high
    else low < n * grid.step && n * grid.step < high
  let down := centre / grid.step
  let up := down + 1
  if holds down && (!holds up || centre - down * grid.step < up * grid.step - centre) then some down
  else if holds up then some up
  else none

/-- The fewest digits that read back as a positive value, as a whole number and a power of ten to
multiply it by: the point of the coarsest grid that has one. -/
def shortest (s : Scaled) : Nat × Int :=
  let found := (List.range 640).findSome? fun (i : Nat) =>
    let power : Int := 309 - (i : Int)
    ((Grid.of power s.exponent).nearest? s).map fun n => (n, power)
  found.getD (0, 0)

/-- A whole number times a power of ten, written without an exponent. -/
def positional (n : Nat) (power : Int) : List Char :=
  let digits := Nat.toDigits 10 n
  if 0 ≤ power then digits ++ List.replicate power.toNat '0'
  else
    let places := (-power).toNat
    let padded := List.replicate (places + 1 - digits.length) '0' ++ digits
    padded.take (padded.length - places) ++ '.' :: padded.drop (padded.length - places)

def writeFloat (x : Float) : String :=
  if x.isNaN then "NaN"
  else
    let s := Scaled.ofFloat x
    let sign := if s.negative then "-" else ""
    if x.isInf then sign ++ "inf"
    else if s.mantissa = 0 then sign ++ "0"
    else
      let (n, power) := shortest s
      sign ++ String.ofList (positional n power)

/-- The number nearest to `n · 10 ^ power`. Far beyond the range of the format the answer is settled
by the number of digits. -/
def ofDecimal (n : Nat) (power : Int) : Float :=
  let size := power + (Nat.toDigits 10 n).length
  if n = 0 ∨ size < -340 then 0
  else if 320 < size then 1 / 0
  else Float.ofScientific n (power < 0) power.natAbs

/-- The power of ten that may end a number: `e` or `E`, an optional sign and digits. -/
def readExponent? : List Char → Option Int
  | [] => some 0
  | c :: cs => if c = 'e' ∨ c = 'E' then readInteger? cs else none

/-- A number without a sign: digits with a point before, within or after them, and a power of ten;
or the name of an infinity or of no number, in any case of letters. -/
def readMagnitude? (cs : List Char) : Option Float :=
  let name := String.ofList (cs.map Char.toLower)
  if name = "inf" ∨ name = "infinity" then some (1 / 0)
  else if name = "nan" then some (0 / 0)
  else
    let whole := cs.takeWhile Char.isDigit
    let rest := cs.dropWhile Char.isDigit
    let (fraction, rest) :=
      match rest with
      | '.' :: rest => (rest.takeWhile Char.isDigit, rest.dropWhile Char.isDigit)
      | rest => ([], rest)
    if whole.isEmpty && fraction.isEmpty then none
    else (readExponent? rest).map fun power =>
      ofDecimal (Nat.ofDigitChars 10 (whole ++ fraction) 0) (power - fraction.length)

def readFloat? (cs : List Char) : Option Float :=
  match cs with
  | '-' :: cs => (readMagnitude? cs).map fun x => -x
  | '+' :: cs => readMagnitude? cs
  | cs => readMagnitude? cs

end Interpolation.Number
