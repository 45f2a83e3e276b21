import EnumOrdering.Decimal.Shortest
import EnumOrdering.Toml.Text

/-!
# Numbers in TOML

Digits may have an underscore between any two of them. An integer is decimal,
without leading zeros and with at most one sign, or without a sign in one of
three other bases; it must fit 64 bits. A number with a point or an exponent is
the double nearest to it; one that lies beyond all finite doubles is refused when
it is positive and infinite when it is negative. Infinity and the number that is
none can be written as such.
-/

namespace EnumOrdering.Toml

open Decimal (Magnitude Binary64)

/-- A number with a point or an exponent. -/
inductive Real
  | finite (x : Binary64)
  | infinite (negative : Bool)
  | nan
deriving Repr, DecidableEq

/-- Doubles are shown without exponents. -/
def realLayout : Decimal.Layout := ⟨-400, 400⟩

/-- The text of a number in a message. -/
def Real.shown : Real → String
  | .finite x => x.text realLayout
  | .infinite true => "-inf"
  | .infinite false => "inf"
  | .nan => "NaN"

/-- A number. -/
inductive Number
  | integer (z : Int64)
  | real (x : Real)
deriving Repr, DecidableEq

/-- Reads more digits, with single underscores before some of them. -/
def readMoreDigits (p : Char → Bool) (input : List Char) :
    Except Fault (List Char × List Char) :=
  match input with
  | [] => .ok ([], [])
  | '_' :: rest =>
    match rest with
    | [] => Fault.before []
    | d :: rest' =>
      if p d then (readMoreDigits p rest').map fun r => (d :: r.1, r.2)
      else Fault.before (d :: rest')
  | c :: rest =>
    if p c then (readMoreDigits p rest).map fun r => (c :: r.1, r.2) else .ok ([], c :: rest)

theorem length_readMoreDigits_le {p : Char → Bool} {input : List Char}
    {r : List Char × List Char} (h : readMoreDigits p input = .ok r) :
    r.2.length ≤ input.length := by
  fun_induction readMoreDigits p input generalizing r with
  | case1 => cases h; exact Nat.le_refl _
  | case2 => cases h
  | case3 d rest _ ih =>
    cases e : readMoreDigits p rest with
    | error f => rw [e] at h; cases h
    | ok r' =>
      rw [e] at h
      cases h
      have := ih e
      simp only [List.length_cons]
      omega
  | case4 => cases h
  | case5 c rest _ _ ih =>
    cases e : readMoreDigits p rest with
    | error f => rw [e] at h; cases h
    | ok r' =>
      rw [e] at h
      cases h
      have := ih e
      simp only [List.length_cons]
      omega
  | case6 => cases h; exact Nat.le_refl _

/-- Reads one or more digits. -/
def readDigits (p : Char → Bool) (input : List Char) : Except Fault (Step (List Char) input) :=
  match input with
  | [] => Fault.before []
  | c :: rest =>
    if p c then
      match h : readMoreDigits p rest with
      | .error f => .error f
      | .ok r => .ok ⟨c :: r.1, r.2, by
          have := length_readMoreDigits_le h
          simp only [List.length_cons]
          omega⟩
    else Fault.before (c :: rest)

/-- The number of digits in a base. -/
def valueOf (base : Nat) (digits : List Char) : Nat :=
  digits.foldl (fun n c => n * base + (hexValue? c).getD 0) 0

/-- Reads an integer in another base after its two signs. -/
def readBased (base : Nat) (input : List Char) : Except Fault (Step Number input) :=
  match readDigits (fun c => (hexValue? c).any (· < base)) input with
  | .error f => .error f
  | .ok st =>
    let n := valueOf base st.value
    match Decimal.int64? n with
    | some z => .ok (st.map fun _ => .integer z)
    | none => Fault.before input

/-- A decimal number as it is written. -/
structure Numeral where
  negative : Bool
  whole : List Char
  fraction : Option (List Char)
  exponent : Option (Bool × List Char)
deriving Repr, DecidableEq

/-- The magnitude nearest to `coefficient * 10 ^ e`, if it is finite. Numbers that
are far out of range are told by the count of their digits. -/
def magnitude? (coefficient : Nat) (e : Int) : Option Magnitude :=
  let size : Int := (Decimal.natDigits coefficient).length + e
  if coefficient = 0 || size < -330 then some .zero
  else if 330 < size then none
  else if 0 ≤ e then Magnitude.ofQuotient? (coefficient * Nat.pow 10 e.toNat) 1
  else Magnitude.ofQuotient? coefficient (Nat.pow 10 (-e).toNat)

/-- The value of a numeral, or nothing where it is refused. -/
def Numeral.value? (n : Numeral) : Option Number :=
  if n.fraction.isNone && n.exponent.isNone then
    let size := valueOf 10 n.whole
    let z : Int := if n.negative then -size else size
    (Decimal.int64? z).map .integer
  else
    let digits := n.fraction.getD []
    let (below, exponent) := n.exponent.getD (false, [])
    let size : Int := valueOf 10 exponent
    let e := (if below then -size else size) - digits.length
    match magnitude? (valueOf 10 (n.whole ++ digits)) e with
    | some x => some (.real (.finite ⟨n.negative, x⟩))
    | none => if n.negative then some (.real (.infinite true)) else none

/-- Whether a number begins with a minus sign, and the rest after a sign. -/
def splitSign (input : List Char) : Bool × List Char :=
  match input with
  | '-' :: rest => (true, rest)
  | '+' :: rest => (false, rest)
  | cs => (false, cs)

theorem length_splitSign_le (input : List Char) : (splitSign input).2.length ≤ input.length := by
  unfold splitSign
  split <;> simp

/-- Reads the digits before the point: a zero alone, or digits that begin with
another one. -/
def readWhole (input : List Char) : Except Fault (Step (List Char) input) :=
  match input with
  | '0' :: rest => .ok ⟨['0'], rest, length_lt_cons '0' rest⟩
  | cs => readDigits Char.isDigit cs

/-- Reads a point and the digits after it, if there is a point. -/
def readFraction (input : List Char) :
    Except Fault (Option (List Char) × Rest input) :=
  match input with
  | '.' :: rest =>
    (readDigits Char.isDigit rest).map fun st =>
      (some st.value, ⟨st.rest, by have := st.shorter; simp only [List.length_cons]; omega⟩)
  | cs => .ok (none, .whole cs)

/-- Reads an exponent, if there is one. -/
def readExponent (input : List Char) :
    Except Fault (Option (Bool × List Char) × Rest input) :=
  match input with
  | [] => .ok (none, .whole [])
  | c :: rest =>
    if c = 'e' || c = 'E' then
      (readDigits Char.isDigit (splitSign rest).2).map fun st =>
        (some ((splitSign rest).1, st.value), ⟨st.rest, by
          have := st.shorter
          have := length_splitSign_le rest
          simp only [List.length_cons]
          omega⟩)
    else .ok (none, .whole (c :: rest))

/-- Reads a decimal number after its sign. -/
def readDecimal (negative : Bool) (input : List Char) : Except Fault (Step Number input) :=
  match readWhole input with
  | .error f => .error f
  | .ok whole =>
    match readFraction whole.rest with
    | .error f => .error f
    | .ok (fraction, afterFraction) =>
      match readExponent afterFraction.rest with
      | .error f => .error f
      | .ok (exponent, afterExponent) =>
        match (Numeral.mk negative whole.value fraction exponent).value? with
        | none => Fault.before input
        | some x => .ok ⟨x, afterExponent.rest, by
            have := whole.shorter
            have := afterFraction.le
            have := afterExponent.le
            omega⟩

/-- Reads a number. -/
def readNumber (input : List Char) : Except Fault (Step Number input) :=
  match input with
  | '0' :: 'x' :: rest => (readBased 16 rest).map (·.lift (length_le_cons₂ _ _ rest))
  | '0' :: 'o' :: rest => (readBased 8 rest).map (·.lift (length_le_cons₂ _ _ rest))
  | '0' :: 'b' :: rest => (readBased 2 rest).map (·.lift (length_le_cons₂ _ _ rest))
  | cs =>
    have le := length_splitSign_le cs
    match h : (splitSign cs).2 with
    | 'i' :: 'n' :: 'f' :: rest =>
      .ok ⟨.real (.infinite (splitSign cs).1), rest, by
        rw [h] at le
        simp only [List.length_cons] at le
        omega⟩
    | 'n' :: 'a' :: 'n' :: rest =>
      .ok ⟨.real .nan, rest, by
        rw [h] at le
        simp only [List.length_cons] at le
        omega⟩
    | digits => (readDecimal (splitSign cs).1 digits).map (·.lift (h ▸ le))

end EnumOrdering.Toml
