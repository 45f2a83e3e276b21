import EnumOrdering.Toml.Reader

/-!
# Dates and times in TOML

A date, a time of day, or both with a `T` or a space between them and perhaps an
offset after them. Only the form matters here, and that every number is one of
the calendar or the clock.
-/

namespace EnumOrdering.Toml.Moment

/-- The number of exactly `count` digits, and what follows them. -/
def digits? (count : Nat) (input : List Char) : Option (Nat × List Char) :=
  let ds := input.take count
  if ds.length = count ∧ ds.all Char.isDigit then
    some (ds.foldl (fun n c => n * 10 + (c.toNat - '0'.toNat)) 0, input.drop count)
  else none

/-- The number of two digits from `low` to `high`, and what follows them. -/
def within? (low high : Nat) (input : List Char) : Option (Nat × List Char) :=
  (digits? 2 input).filter fun p => low ≤ p.1 && p.1 ≤ high

/-- What follows a sign. -/
def after? (sign : Char) : List Char → Option (List Char)
  | [] => none
  | c :: rest => if c = sign then some rest else none

/-- The number of days of a month. -/
def daysOf (year month : Nat) : Nat :=
  if month = 2 then
    if year % 4 = 0 ∧ (year % 100 ≠ 0 ∨ year % 400 = 0) then 29 else 28
  else if month = 4 ∨ month = 6 ∨ month = 9 ∨ month = 11 then 30
  else 31

/-- What follows a date. -/
def date? (input : List Char) : Option (List Char) := do
  let (year, rest) ← digits? 4 input
  let rest ← after? '-' rest
  let (month, rest) ← within? 1 12 rest
  let rest ← after? '-' rest
  let (_, rest) ← within? 1 (daysOf year month) rest
  return rest

/-- What follows the fraction of a second, if there is one. -/
def afterFraction : List Char → List Char
  | '.' :: d :: rest => if d.isDigit then rest.dropWhile Char.isDigit else '.' :: d :: rest
  | cs => cs

/-- What follows a time of day. -/
def time? (input : List Char) : Option (List Char) := do
  let (_, rest) ← within? 0 23 input
  let rest ← after? ':' rest
  let (_, rest) ← within? 0 59 rest
  let rest ← after? ':' rest
  let (_, rest) ← within? 0 60 rest
  return afterFraction rest

/-- What follows an offset, if there is one. -/
def afterOffset : List Char → List Char
  | [] => []
  | c :: rest =>
    if c = 'Z' || c = 'z' then rest
    else if c = '+' || c = '-' then
      let clock? := do
        let (_, r) ← within? 0 23 rest
        let r ← after? ':' r
        let (_, r) ← within? 0 59 r
        return r
      clock?.getD (c :: rest)
    else c :: rest

/-- What follows the time after a date, if there is one. -/
def afterTime : List Char → List Char
  | [] => []
  | c :: rest =>
    if c = 'T' || c = 't' || c = ' ' then
      match time? rest with
      | some r => afterOffset r
      | none => c :: rest
    else c :: rest

/-- What follows a date, a time, or both. -/
def remainder? (input : List Char) : Option (List Char) :=
  match date? input with
  | some rest => some (afterTime rest)
  | none => time? input

/-- Takes a date, a time, or both off the front of a text. -/
def read? (input : List Char) : Option (Step Unit input) :=
  (remainder? input).bind fun rest =>
    if h : rest.length < input.length then some ⟨(), rest, h⟩ else none

end EnumOrdering.Toml.Moment
