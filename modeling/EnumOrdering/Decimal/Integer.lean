/-!
# Decimal integers

The canonical decimal text of an integer: no leading zeros, a minus sign before
a negative one, and `0` for zero. What is read is more liberal: one sign of
either kind may stand before the digits, and zeros may lead them.
-/

namespace EnumOrdering.Decimal

/-- The decimal digits of a natural number. -/
def natDigits (n : Nat) : List Char := Nat.toDigits 10 n

/-- The decimal characters of an integer. -/
def intDigits (z : Int) : List Char :=
  if z < 0 then '-' :: natDigits z.natAbs else natDigits z.natAbs

/-- The decimal text of a natural number. -/
def natText (n : Nat) : String := String.ofList (natDigits n)

/-- The decimal text of an integer. -/
def intText (z : Int) : String := String.ofList (intDigits z)

/-- The value of a digit. -/
def digit? (c : Char) : Option Nat :=
  if '0' ≤ c ∧ c ≤ '9' then some (c.toNat - '0'.toNat) else none

/-- The number that digits continue `value` to. -/
def appendDigits? : (value : Nat) → List Char → Option Nat
  | value, [] => some value
  | value, c :: cs =>
    match digit? c with
    | some d => appendDigits? (value * 10 + d) cs
    | none => none

/-- The natural number of one or more digits. -/
def parseNat? : List Char → Option Nat
  | [] => none
  | c :: cs => appendDigits? 0 (c :: cs)

/-- The integer of one or more digits with at most one sign before them. -/
def parseInt? : List Char → Option Int
  | [] => none
  | c :: cs =>
    if c = '-' then (parseNat? cs).map fun n => -(n : Int)
    else if c = '+' then (parseNat? cs).map fun n => (n : Int)
    else (parseNat? (c :: cs)).map fun n => (n : Int)

/-- An integer in 64 bits, if they hold it. -/
def int64? (z : Int) : Option Int64 :=
  if Int64.minValue.toInt ≤ z ∧ z ≤ Int64.maxValue.toInt then some (Int64.ofInt z) else none

/-- The integer of a numeral, if 64 bits hold it. -/
def parseInt64? (cs : List Char) : Option Int64 := (parseInt? cs).bind int64?

end EnumOrdering.Decimal
