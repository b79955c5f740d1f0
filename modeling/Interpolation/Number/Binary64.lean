/-!
# Floating point numbers as integers

Finite floating point numbers as exact multiples of powers of two, and the remainder of a division,
which is exact in that form.
-/

namespace Interpolation.Number

/-- The number `mantissa · 2 ^ exponent`, negative or not. The mantissa is below `2 ^ 53`, and the
exponent is not below that of the least positive number. -/
structure Scaled where
  negative : Bool
  mantissa : Nat
  exponent : Int

/-- The exponent of the least positive number, `2 ^ -1074`. -/
def leastExponent : Int := -1074

/-- The bit of a mantissa above those that are stored, `2 ^ 52`. -/
def leadingBit : Nat := 0x10000000000000

/-- The bit of a word that is set for negative numbers, `2 ^ 63`. -/
def signBit : Nat := 0x8000000000000000

/-- The exact value of a finite number. -/
def Scaled.ofFloat (x : Float) : Scaled :=
  let bits := x.toBits.toNat
  let field := bits / leadingBit % 0x800
  let fraction := bits % leadingBit
  { negative := signBit ≤ bits
    mantissa := if field = 0 then fraction else leadingBit + fraction
    exponent := leastExponent + (field - 1 : Nat) }

/-- The number with this exact value. The mantissa is shifted up as far as the format allows. -/
def Scaled.toFloat (s : Scaled) : Float :=
  let room := min (52 - s.mantissa.log2 : Int) (s.exponent - leastExponent)
  let mantissa := s.mantissa <<< room.toNat
  let steps := (s.exponent - room - leastExponent).toNat
  let magnitude := if s.mantissa = 0 then 0 else steps * leadingBit + mantissa
  Float.ofBits (UInt64.ofNat (magnitude + if s.negative then signBit else 0))

/-- The remainder of a division that truncates toward zero. It has the sign of the dividend. -/
def truncatedRemainder (x y : Float) : Float :=
  if x.isNaN || y.isNaN || x.isInf || y == 0 then 0 / 0
  else if y.isInf then x
  else
    let a := Scaled.ofFloat x
    let b := Scaled.ofFloat y
    let exponent := min a.exponent b.exponent
    let dividend := a.mantissa <<< (a.exponent - exponent).toNat
    let divisor := b.mantissa <<< (b.exponent - exponent).toNat
    Scaled.toFloat { negative := a.negative, mantissa := dividend % divisor, exponent }

/-- The remainder that is not negative, the divisor's size added where the truncated one is. -/
def euclideanRemainder (x y : Float) : Float :=
  let r := truncatedRemainder x y
  if r < 0 then r + y.abs else r

end Interpolation.Number
