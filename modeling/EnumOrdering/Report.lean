import EnumOrdering.Json.Compact

/-!
# Reports

The state of a store for its keepers: as an object, and as a box drawn with line
characters.
-/

namespace EnumOrdering

/-- What is reported of a store. -/
structure Report where
  /-- Where the enumerations come from. -/
  source : String
  generation : UInt64
  enumerationCount : Nat
  totalValues : Nat
  /-- Successful reloads, the first load not counted. -/
  reloadsOk : UInt64
  /-- Failed reloads. -/
  reloadsFailed : UInt64
  /-- What the last failed reload failed with. -/
  lastError : Option String
deriving Repr, DecidableEq

namespace Report

/-- A natural number as a JSON value. -/
def number (n : Nat) : Json.Value := .number (.integer n)

/-- The report as an object. -/
def value (r : Report) : Json.Value :=
  .object [("source", .text r.source), ("generation", number r.generation.toNat),
    ("enumeration_count", number r.enumerationCount), ("total_values", number r.totalValues),
    ("reloads_ok", number r.reloadsOk.toNat), ("reloads_failed", number r.reloadsFailed.toNat),
    ("last_error", match r.lastError with
      | some e => .text e
      | none => .null)]

/-- A line of the box between two corners. -/
def rule (left line right : Char) : List Char := left :: List.replicate 50 line ++ [right, '\n']

/-- A number set to the right in ten columns. -/
def padded (n : Nat) : List Char :=
  let digits := Decimal.natDigits n
  List.replicate (10 - digits.length) ' ' ++ digits

/-- A line of the box with a number under a label of fourteen columns. -/
def counter (label : String) (n : Nat) : List Char :=
  "║   ".toList ++ label.toList ++ ' ' :: padded n ++ List.replicate 23 ' ' ++ ['║', '\n']

/-- The report as a box. -/
def box (r : Report) : String :=
  String.ofList <|
    rule '╔' '═' '╗'
    ++ "║           enum-rank Store Report                 ║\n".toList
    ++ rule '╠' '═' '╣'
    ++ "║ source: ".toList ++ r.source.toList ++ ['\n']
    ++ rule '╠' '─' '╣'
    ++ counter "generation:  " r.generation.toNat
    ++ counter "enumerations:" r.enumerationCount
    ++ counter "values:      " r.totalValues
    ++ rule '╠' '─' '╣'
    ++ counter "reloads ok:  " r.reloadsOk.toNat
    ++ counter "reloads fail:" r.reloadsFailed.toNat
    ++ (match r.lastError with
      | some e => "║   last error: ".toList ++ e.toList ++ ['\n']
      | none => [])
    ++ rule '╚' '═' '╝'

end Report

end EnumOrdering
