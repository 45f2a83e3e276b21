/-!
# Sets of code points

A set of code points is written as a text: single code points and ranges of them,
in hexadecimal, apart by spaces and line ends. Such tables concern the characters
that may stand in names on a network; about others they say nothing.
-/

namespace EnumOrdering.Unicode

/-- The words of a text. -/
def words (text : String) : List (List Char) :=
  let put (c : Char) (found : List (List Char)) : List (List Char) :=
    if c = ' ' || c = '\n' then [] :: found
    else
      match found with
      | [] => [[c]]
      | word :: others => (c :: word) :: others
  (text.toList.foldr put []).filter (· ≠ [])

/-- The value of a hexadecimal digit in a table. -/
def digitValue (c : Char) : Nat :=
  if c.toNat ≤ '9'.toNat then c.toNat - '0'.toNat else c.toNat - 'A'.toNat + 10

/-- The number of a numeral in a table. -/
def number (digits : List Char) : Nat := digits.foldl (fun n c => n * 16 + digitValue c) 0

/-- Code points from the first to the last. -/
structure Range where
  first : Nat
  last : Nat
deriving Repr, DecidableEq

/-- The range of two numerals with a sign between them, or of one alone. -/
def Range.ofWord (sign : Char) (word : List Char) : Range :=
  match word.span (· ≠ sign) with
  | (first, []) => ⟨number first, number first⟩
  | (first, _ :: last) => ⟨number first, number last⟩

/-- Whether a range holds a code point. -/
def Range.has (r : Range) (n : Nat) : Bool := r.first ≤ n && n ≤ r.last

/-- A set of code points. -/
structure CodeSet where
  ranges : List Range
deriving Repr, DecidableEq

/-- The set that a text stands for. -/
def CodeSet.ofText (text : String) : CodeSet := ⟨(words text).map (Range.ofWord '-')⟩

/-- Whether a character is in a set. -/
def CodeSet.has (s : CodeSet) (c : Char) : Bool := s.ranges.any (·.has c.toNat)

end EnumOrdering.Unicode
