/-!
# Finite double precision numbers

A finite number of the 64-bit binary format is a sign and a magnitude, and a
magnitude is a whole number of units of 2⁻¹⁰⁷⁴: a significand below 2⁵³ shifted
left by at most 2045 places. Every operation computes its exact result as a
quotient of naturals and rounds once, a half going to the even neighbour, so
nothing here depends on the arithmetic of the machine.
-/

namespace EnumOrdering.Decimal

/-- `num / den` rounded to a natural number, a half going to the even
neighbour. -/
def roundHalfEven (num den : Nat) : Nat :=
  let q := num / den
  let r := num % den
  if 2 * r < den then q
  else if den < 2 * r then q + 1
  else if q % 2 = 0 then q
  else q + 1

/-- The magnitude `significand * 2 ^ shift * 2 ^ (-1074)`. -/
structure Magnitude where
  significand : Nat
  shift : Nat
deriving Repr, DecidableEq

namespace Magnitude

/-- The number of the smallest units in one. -/
def unit : Nat := 1 <<< 1074

def zero : Magnitude := ⟨0, 0⟩

/-- The magnitude counted in the smallest units. -/
def units (x : Magnitude) : Nat := x.significand <<< x.shift

def isZero (x : Magnitude) : Bool := x.significand == 0

/-- The magnitude nearest to `num / den`, or nothing where that lies past the
largest finite one. -/
def ofQuotient? (num den : Nat) : Option Magnitude :=
  let scaled := num * unit
  let shift := (scaled / den).log2 - 52
  let significand := roundHalfEven scaled (den <<< shift)
  let x : Magnitude :=
    if significand = 1 <<< 53 then ⟨1 <<< 52, shift + 1⟩ else ⟨significand, shift⟩
  if x.shift < 2046 then some x else none

/-- The magnitude nearest to `10 ^ k`. -/
def powerOfTen? (k : Nat) : Option Magnitude := ofQuotient? (Nat.pow 10 k) 1

/-- The product, rounded. -/
def mul? (x y : Magnitude) : Option Magnitude :=
  ofQuotient? (x.units * y.units) (unit * unit)

/-- The quotient, rounded. -/
def div? (x y : Magnitude) : Option Magnitude := ofQuotient? x.units y.units

end Magnitude

/-- A finite number of the 64-bit binary format. Zero has either sign. -/
structure Binary64 where
  negative : Bool
  magnitude : Magnitude
deriving Repr, DecidableEq

end EnumOrdering.Decimal
