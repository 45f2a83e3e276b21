import EnumOrdering.Operation

/-!
# Requests

A request names an enumeration and carries an operation. A name that begins with
the reload mark asks for a reload by itself: the mark is taken off once, and what
is left is evaluated after the reload, or nothing is when nothing is left. An
empty mark turns this convention off.
-/

namespace EnumOrdering

/-- A request for an evaluator. -/
structure Request where
  name : String
  operation : Operation
  /-- Whether the name bore the reload mark. Then a name that is unknown after
  the reload asks for the reload alone. -/
  marked : Bool
deriving Repr, DecidableEq

/-- What follows `front` in a list that begins with it. -/
def dropFront? {α : Type} [DecidableEq α] : (front whole : List α) → Option (List α)
  | [], whole => some whole
  | _ :: _, [] => none
  | a :: front, b :: whole => if a = b then dropFront? front whole else none

namespace Request

/-- The mark that asks for a reload unless another one is chosen. -/
def defaultMark : String := "__"

/-- A request whose name is taken as it is. -/
def plain (name : String) (operation : Operation) : Request := ⟨name, operation, false⟩

/-- A request whose name had the reload mark before `rest`. -/
def reloading (rest : List Char) (operation : Operation) : Request :=
  match rest, operation with
  | [], _ => ⟨"", .reloadOnly, true⟩
  | c :: cs, .reloadOnly => ⟨String.ofList (c :: cs), .reloadOnly, true⟩
  | c :: cs, _ => ⟨String.ofList (c :: cs), .reloadThenEvaluate, true⟩

/-- The request of a name that may bear the reload mark. -/
def ofName (mark name : String) (operation : Operation) : Request :=
  if mark.isEmpty then plain name operation
  else
    match dropFront? mark.toList name.toList with
    | some rest => reloading rest operation
    | none => plain name operation

/-- The request of a name and the token of an operation; without a token it is
an evaluation. -/
def parse (mark name : String) (token : Option String) : Except Failure Request :=
  match token with
  | none => .ok (ofName mark name .evaluate)
  | some token => (Operation.parse token).map (ofName mark name)

end Request

end EnumOrdering
