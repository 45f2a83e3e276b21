/-!
# Names in ASCII

A label with characters beyond ASCII is written in ASCII as its characters of
ASCII, a hyphen, and a numeral for each other character. The other characters are
inserted in the order of their code points and, for one code point, of their
places; a numeral tells how many pairs of code point and place are passed over to
come to the next insertion. The digits of a numeral come lowest first, and a
digit below the threshold of its place ends it. The thresholds follow the sizes
of the numbers before.
-/

namespace EnumOrdering.Url.Punycode

/-- The number of digits. -/
abbrev base : Nat := 36

/-- The bias of the first numeral. -/
abbrev firstBias : Nat := 72

/-- The first code point that is not one of ASCII. -/
abbrev firstCodePoint : Nat := 0x80

/-- No number that a numeral leads to is as large as this. -/
abbrev limit : Nat := 4294967296

/-- Whether a code point is one of ASCII. -/
def isBasic (n : Nat) : Bool := n < firstCodePoint

/-- The character of a digit: letters, then numerals. -/
def digitChar (d : Nat) : Char := Char.ofNat (if d < 26 then 0x61 + d else 0x30 + (d - 26))

/-- The digit of a character. -/
def digitValue? (c : Char) : Option Nat :=
  if 'a' ≤ c && c ≤ 'z' then some (c.toNat - 0x61)
  else if 'A' ≤ c && c ≤ 'Z' then some (c.toNat - 0x41)
  else if '0' ≤ c && c ≤ '9' then some (c.toNat - 0x30 + 26)
  else none

/-- The least digit that does not end a numeral, at a place that counts in steps
of the base. -/
def threshold (place bias : Nat) : Nat := max 1 (min 26 (place - bias))

theorem one_le_threshold (place bias : Nat) : 1 ≤ threshold place bias :=
  Nat.le_max_left 1 _

/-- Divides a number until it is small, and counts the places it takes. -/
def shrink (delta place : Nat) : Nat × Nat :=
  if 455 < delta then shrink (delta / 35) (place + base) else (delta, place)
termination_by delta
decreasing_by exact Nat.div_lt_self (by omega) (by omega)

/-- The bias after the number `delta`, where `count` characters are in place. -/
def adapt (delta count : Nat) (first : Bool) : Nat :=
  let delta := if first then delta / 700 else delta / 2
  let (small, place) := shrink (delta + delta / count) 0
  place + 36 * small / (small + 38)

/-! ## Writing -/

/-- The numeral of a number from a place on. -/
def writeNumber (bias place n : Nat) : List Char :=
  let t := threshold place bias
  if n < t then [digitChar n]
  else
    digitChar (t + (n - t) % (base - t))
      :: writeNumber bias (place + base) ((n - t) / (base - t))
termination_by n
decreasing_by
  have := one_le_threshold place bias
  exact Nat.lt_of_le_of_lt (Nat.div_le_self _ _) (by omega)

/-- How far the writing of a label has come: what is written, the pairs passed
over since, the bias of the next numeral and the number of characters in place. -/
structure Progress where
  written : List Char
  passed : Nat
  bias : Nat
  count : Nat
deriving Repr, DecidableEq

/-- Passes one character of the label while the code point `n` is inserted. -/
def Progress.pass (basics n : Nat) (p : Progress) (c : Nat) : Progress :=
  if c < n then { p with passed := p.passed + 1 }
  else if c = n then
    { written := p.written ++ writeNumber p.bias base p.passed
      passed := 0
      bias := adapt p.passed (p.count + 1) (p.count = basics)
      count := p.count + 1 }
  else p

/-- Inserts the code points that are left, of which `n` is the least possible. -/
def insertAll (label : List Nat) (basics : Nat) : List Nat → Nat → Progress → Progress
  | [], _, p => p
  | m :: others, n, p =>
    let p := { p with passed := p.passed + (m - n) * (p.count + 1) }
    let p := label.foldl (Progress.pass basics m) p
    insertAll label basics others (m + 1) { p with passed := p.passed + 1 }

/-- A label in ASCII. -/
def encode (label : List Char) : List Char :=
  let codePoints := label.map Char.toNat
  let basics := label.filter fun c => isBasic c.toNat
  let others := ((codePoints.filter (!isBasic ·)).mergeSort).eraseReps
  let start : Progress := ⟨[], 0, firstBias, basics.length⟩
  let p := insertAll codePoints basics.length others firstCodePoint start
  (if basics = [] then [] else basics ++ ['-']) ++ p.written

/-! ## Reading -/

/-- Reads a numeral from a place on, whose digit there weighs `weight`, and adds
its number to `sum`. -/
def readNumber (bias : Nat) : List Char → (place weight sum : Nat) → Option (Nat × List Char)
  | [], _, _, _ => none
  | c :: rest, place, weight, sum =>
    match digitValue? c with
    | none => none
    | some d =>
      let t := threshold place bias
      if limit ≤ sum + d * weight then none
      else if d < t then some (sum + d * weight, rest)
      else if limit ≤ weight * (base - t) then none
      else readNumber bias rest (place + base) (weight * (base - t)) (sum + d * weight)

theorem length_readNumber_lt {bias place weight sum n : Nat} {input rest : List Char}
    (h : readNumber bias input place weight sum = some (n, rest)) :
    rest.length < input.length := by
  fun_induction readNumber bias input place weight sum with
  | case1 => cases h
  | case2 => cases h
  | case3 => cases h
  | case4 =>
    cases h
    exact Nat.lt_succ_self _
  | case5 => cases h
  | case6 =>
    rename_i ih
    exact Nat.lt_succ_of_lt (ih h)

/-- Reads the insertions that are left. `n` is the least code point possible and
`place` the first place possible for it. -/
def readAll (bias n place : Nat) (label : List Char) (input : List Char) : Option (List Char) :=
  match input with
  | [] => some label
  | c :: rest =>
    match h : readNumber bias (c :: rest) base 1 place with
    | none => none
    | some (sum, rest') =>
      let count := label.length + 1
      let m := n + sum / count
      if m.isValidChar then
        readAll (adapt (sum - place) count (place = 0)) m (sum % count + 1)
          (label.insertIdx (sum % count) (Char.ofNat m)) rest'
      else none
termination_by input.length
decreasing_by exact length_readNumber_lt h

/-- The label that characters of ASCII stand for. -/
def decode? (input : List Char) : Option (List Char) :=
  match input.reverse.span (· ≠ '-') with
  | (_, []) => readAll firstBias firstCodePoint 0 [] input
  | (_, [_]) => none
  | (numerals, _ :: basics) =>
    readAll firstBias firstCodePoint 0 basics.reverse numerals.reverse

end EnumOrdering.Url.Punycode
