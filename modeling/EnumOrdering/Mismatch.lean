import EnumOrdering.Decimal.Integer
import EnumOrdering.Text.Quoted

/-!
# Mismatches of shape

What is said of a well-formed text, JSON or TOML, that holds something other
than what its reader wants. Numbers are given as each format writes them.
-/

namespace EnumOrdering

/-- What was found where something else was wanted. -/
inductive Found
  | null
  | boolean (b : Bool)
  | integer (z : Int)
  | real (shown : String)
  | text (s : String)
  | sequence
  | map
deriving Repr, DecidableEq

/-- What was found, in the words of a message. -/
def Found.describe : Found → String
  | .null => "null"
  | .boolean b => if b then "boolean `true`" else "boolean `false`"
  | .integer z => s!"integer `{Decimal.intText z}`"
  | .real shown => s!"floating point `{shown}`"
  | .text s => "string " ++ Text.quoted s
  | .sequence => "sequence"
  | .map => "map"

/-- Why a well-formed text does not have the shape that its reader wants. -/
inductive Mismatch
  | invalidType (found : Found) (expected : String)
  | invalidValue (found : Found) (expected : String)
  | invalidLength (length : Nat) (expected : String)
  | missingField (name : String)
  | duplicateField (name : String)
deriving Repr, DecidableEq

/-- The wording of a mismatch. -/
def Mismatch.message : Mismatch → String
  | .invalidType found expected => s!"invalid type: {found.describe}, expected {expected}"
  | .invalidValue found expected => s!"invalid value: {found.describe}, expected {expected}"
  | .invalidLength length expected =>
    s!"invalid length {Decimal.natText length}, expected {expected}"
  | .missingField name => s!"missing field `{name}`"
  | .duplicateField name => s!"duplicate field `{name}`"

end EnumOrdering
