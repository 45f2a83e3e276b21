import EnumOrdering.Decimal.Shortest
import EnumOrdering.Json.Reader

/-!
# Numbers in JSON

A number is read in two steps: its digits are taken as they stand, and then they
are given a value. An integer that fits 64 bits, with or without a sign, keeps
its exact value. Every other number becomes a finite double: its digits fill a
64-bit significand as far as they fit, and the significand is scaled once by a
power of ten, or in stages where the power itself is no finite double.
-/

namespace EnumOrdering.Json

open Decimal (Magnitude Binary64)

/-- A number: an integer of 64 bits, or a finite double. -/
inductive Number
  | integer (z : Int)
  | real (x : Binary64)
deriving Repr, DecidableEq

/-- Doubles are written with the point among the digits from 0.00001 up to 10¹⁶. -/
def realLayout : Decimal.Layout := ⟨-5, 16⟩

/-- The text of a number. -/
def Number.text : Number → String
  | .integer z => Decimal.intText z
  | .real x => x.text realLayout

/-- What a number is in a mismatch. -/
def Number.found : Number → Found
  | .integer z => .integer z
  | .real x => .real (x.text realLayout)

def isDigit (b : UInt8) : Bool := 0x30 ≤ b && b ≤ 0x39

/-- The value of a decimal digit. -/
def digitValue (b : UInt8) : Nat := b.toNat - 0x30

/-- The values of the digits that the input begins with. -/
def leadingDigits (input : Bytes) : List Nat := (input.takeWhile isDigit).map digitValue

/-- The input after the digits it begins with. -/
def afterDigits (input : Bytes) : Bytes := input.dropWhile isDigit

theorem length_afterDigits_lt (b : UInt8) (rest : Bytes) :
    (afterDigits rest).length < (b :: rest).length :=
  Nat.lt_succ_of_le (List.dropWhile_sublist _).length_le

theorem length_afterDigits_le (b : UInt8) (rest : Bytes) :
    (afterDigits rest).length ≤ (b :: rest).length :=
  Nat.le_of_lt (length_afterDigits_lt b rest)

/-- A number as it is written: the digits before the point, the digits after it,
and the exponent with its sign. -/
structure Numeral where
  negative : Bool
  whole : List Nat
  fraction : Option (List Nat)
  exponent : Option (Bool × List Nat)
deriving Repr, DecidableEq

/-- Reads the digits before the point: a zero alone, or digits that begin with
another one. -/
def readWhole (input : Bytes) : Except Fault (Step (List Nat) input) :=
  match input with
  | [] => .error (.here .unfinishedValue [])
  | b :: rest =>
    if b = Sign.zero then
      if rest.head?.any isDigit then .error (.ahead .invalidNumber rest)
      else .ok ⟨[0], rest, length_lt_cons b rest⟩
    else if isDigit b then
      .ok ⟨digitValue b :: leadingDigits rest, afterDigits rest, length_afterDigits_lt b rest⟩
    else .error (.here .invalidNumber rest)

/-- A part of a number that may be missing, and what follows. -/
structure Part (α : Type) (input : Bytes) where
  value : Option α
  rest : Bytes
  le : rest.length ≤ input.length

/-- A part that is missing. -/
def Part.missing {α : Type} (input : Bytes) : Part α input := ⟨none, input, Nat.le_refl _⟩

/-- Reads a point and the digits after it, if there is a point. -/
def readFraction (input : Bytes) : Except Fault (Part (List Nat) input) :=
  match input with
  | [] => .ok (.missing [])
  | b :: rest =>
    if b = Sign.point then
      if (leadingDigits rest).isEmpty then
        .error (.ahead (if rest.isEmpty then .unfinishedValue else .invalidNumber) rest)
      else
        .ok ⟨some (leadingDigits rest), afterDigits rest, length_afterDigits_le b rest⟩
    else .ok (.missing (b :: rest))

/-- The sign of an exponent, and what follows it. -/
def exponentSign (input : Bytes) : Bool × Bytes :=
  match input with
  | [] => (false, [])
  | b :: rest =>
    if b = Sign.minus then (true, rest)
    else if b = Sign.plus then (false, rest)
    else (false, b :: rest)

theorem length_exponentSign_le (input : Bytes) :
    (exponentSign input).2.length ≤ input.length := by
  unfold exponentSign
  repeat' split
  all_goals simp

theorem length_afterExponent_le (b : UInt8) {d : UInt8} {rest rest' : Bytes}
    (h : (exponentSign rest).2 = d :: rest') :
    (afterDigits rest').length ≤ (b :: rest).length := by
  have h₁ := length_afterDigits_le d rest'
  have h₂ := h ▸ length_exponentSign_le rest
  exact Nat.le_succ_of_le (Nat.le_trans h₁ h₂)

/-- Reads an exponent, if there is one. -/
def readExponent (input : Bytes) : Except Fault (Part (Bool × List Nat) input) :=
  match input with
  | [] => .ok (.missing [])
  | b :: rest =>
    if b = 0x65 || b = 0x45 then
      match h : (exponentSign rest).2 with
      | [] => .error (.here .unfinishedValue [])
      | d :: rest' =>
        if isDigit d then
          .ok ⟨some ((exponentSign rest).1, digitValue d :: leadingDigits rest'),
            afterDigits rest', length_afterExponent_le b h⟩
        else .error (.here .invalidNumber rest')
    else .ok (.missing (b :: rest))

/-- Reads a number without its sign. -/
def readUnsigned (negative : Bool) (input : Bytes) : Except Fault (Step Numeral input) :=
  match readWhole input with
  | .error f => .error f
  | .ok whole =>
    match readFraction whole.rest with
    | .error f => .error f
    | .ok fraction =>
      match readExponent fraction.rest with
      | .error f => .error f
      | .ok exponent =>
        .ok ⟨⟨negative, whole.value, fraction.value, exponent.value⟩, exponent.rest, by
          have := whole.shorter
          have := fraction.le
          have := exponent.le
          omega⟩

/-- Fills a significand of 64 bits with digits; the digits that no longer fit
are given back. -/
def absorb : (significand : Nat) → (digits : List Nat) → Nat × List Nat
  | significand, [] => (significand, [])
  | significand, d :: digits =>
    if significand * 10 + d < UInt64.size then absorb (significand * 10 + d) digits
    else (significand, d :: digits)

/-- The greatest exponent that is worked with. -/
def largestExponent : Nat := 2147483647

/-- The value of the digits of an exponent, or the digits after the one that made
it too large. -/
def exponentValue : (value : Nat) → (digits : List Nat) → Except (List Nat) Nat
  | value, [] => .ok value
  | value, d :: digits =>
    if value * 10 + d ≤ largestExponent then exponentValue (value * 10 + d) digits
    else .error digits

/-- The greatest `k` for which `10 ^ k` is a finite double. -/
def largestPower : Nat := 308

/-- A magnitude times `10 ^ e`, in one step where `10 ^ |e|` is a finite double,
and otherwise in stages; nothing where the result is too large. -/
def scale? (x : Magnitude) (e : Int) : Option Magnitude :=
  if e.natAbs ≤ largestPower then
    (Magnitude.powerOfTen? e.natAbs).bind fun power =>
      if 0 ≤ e then x.mul? power else x.div? power
  else if x.isZero then some x
  else if 0 ≤ e then none
  else
    (Magnitude.powerOfTen? largestPower).bind fun power =>
      (x.div? power).bind fun y => scale? y (e + largestPower)
termination_by (-e).toNat
decreasing_by simp only [largestPower] at *; omega

/-- The double `significand * 10 ^ e` with a sign. -/
def realOf? (negative : Bool) (significand : Nat) (e : Int) : Option Number :=
  (Magnitude.ofQuotient? significand 1).bind fun x =>
    (scale? x e).map fun y => .real ⟨negative, y⟩

/-- The value of a numeral with a point, an exponent, or more digits than fit.
Where it is too large, the digits of the exponent not yet looked at are given
back. -/
def Numeral.real (n : Numeral) : Except (List Nat) Number :=
  let whole := absorb 0 n.whole
  let digits := n.fraction.getD []
  let all := absorb whole.1 digits
  let places : Int := whole.2.length - (digits.length - all.2.length : Nat)
  let (below, exponent) := n.exponent.getD (false, [0])
  match exponentValue 0 exponent with
  | .error unread =>
    if all.1 ≠ 0 && !below then .error unread
    else .ok (.real ⟨n.negative, .zero⟩)
  | .ok e =>
    (realOf? n.negative all.1 (if below then places - e else places + e)).elim (.error []) .ok

/-- The value of a numeral. Negative zero is a double. -/
def Numeral.value (n : Numeral) : Except (List Nat) Number :=
  let whole := absorb 0 n.whole
  if n.fraction.isNone && n.exponent.isNone && whole.2.isEmpty then
    if !n.negative then .ok (.integer whole.1)
    else if whole.1 ≠ 0 && Int64.minValue.toInt ≤ -whole.1 then .ok (.integer (-whole.1))
    else n.real
  else n.real

/-- Reads a number that the input begins with, its sign included. -/
def readNumeral (input : Bytes) : Except Fault (Step Numeral input) :=
  match input with
  | [] => .error (.here .unfinishedValue [])
  | b :: rest =>
    if b = Sign.minus then
      match readUnsigned true rest with
      | .error f => .error f
      | .ok st => .ok (st.lift (length_le_cons b rest))
    else readUnsigned false (b :: rest)

/-- Reads a number and gives it its value. -/
def readNumber (input : Bytes) : Except Fault (Step Number input) :=
  match readNumeral input with
  | .error f => .error f
  | .ok st =>
    match st.value.value with
    | .ok x => .ok (st.map fun _ => x)
    | .error unread => .error ⟨.numberOutOfRange, unread.length + st.rest.length, []⟩

end EnumOrdering.Json
