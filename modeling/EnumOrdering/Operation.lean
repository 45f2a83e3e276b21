import EnumOrdering.Decimal.Integer
import EnumOrdering.Failure
import EnumOrdering.Text.Blank

/-!
# Operations

A request carries one of three operations, by a number or by a token that is a
numeral with white space around it.
-/

namespace EnumOrdering

/-- What a request asks for. -/
inductive Operation
  | evaluate
  | reloadThenEvaluate
  | reloadOnly
deriving Repr, DecidableEq

namespace Operation

/-- The number of an operation. -/
def code : Operation → Int64
  | .evaluate => 0
  | .reloadThenEvaluate => 1
  | .reloadOnly => 2

/-- The name of an operation in the log. -/
def name : Operation → String
  | .evaluate => "Evaluate"
  | .reloadThenEvaluate => "ReloadThenEvaluate"
  | .reloadOnly => "ReloadOnly"

/-- Whether an operation loads the source anew. -/
def reloads : Operation → Bool
  | .evaluate => false
  | .reloadThenEvaluate => true
  | .reloadOnly => true

/-- The operation of a number. -/
def ofCode (code : Int64) : Except Failure Operation :=
  if code = 0 then .ok .evaluate
  else if code = 1 then .ok .reloadThenEvaluate
  else if code = 2 then .ok .reloadOnly
  else .error (.invalidOperation (Decimal.intText code.toInt))

/-- The operation of a token. A token that is no numeral of 64 bits is named in
full. -/
def parse (token : String) : Except Failure Operation :=
  match Decimal.parseInt64? (Text.trim token.toList) with
  | some code => ofCode code
  | none => .error (.invalidOperation token)

end Operation

end EnumOrdering
