import EnumOrdering.Ranker

/-!
# Scoring

A score request asks for the orders of a list of values in one enumeration. The
values are taken as the field of as many documents, and each document is given
its order, or none where it counts as having none.
-/

namespace EnumOrdering

/-- A request for the orders of some values. -/
structure ScoreRequest where
  /-- The name of the enumeration, with the reload mark or without. -/
  name : String
  /-- The number of the operation; it is an evaluation where there is none. -/
  code : Option Int64
  values : List (Option String)
deriving Repr, DecidableEq

/-- The orders of some values, with the identity of the evaluator that gave
them. -/
structure Score where
  description : String
  generation : UInt64
  orders : List (Option Int64)
deriving Repr, DecidableEq

/-- The orders of the documents of a column. -/
def Evaluator.scoreColumn (e : Evaluator) (column : FieldColumn) : List (Option Int64) :=
  column.docs.map fun doc =>
    if e.hasOrder column.bytes? doc then some (e.docValue column.bytes? doc) else none

/-- The score that an evaluator gives to values. -/
def Evaluator.score (e : Evaluator) (values : List (Option String)) : Score :=
  ⟨e.describe, e.key.generation, e.scoreColumn (FieldColumn.ofList values)⟩

namespace Ranker

/-- The evaluator of a request that is given as a name and the number of an
operation. -/
def evaluatorOfCode (r : Ranker) (store : Store) (load : Load) (name : String) (code : Int64) :
    Reply (Except Failure Evaluator) :=
  match Operation.ofCode code with
  | .error e => ⟨0, store, .error e, []⟩
  | .ok operation => r.evaluator store load (Request.ofName r.reloadMark name operation)

/-- Answers a score request. -/
def score (r : Ranker) (store : Store) (load : Load) (request : ScoreRequest) :
    Reply (Except Failure Score) :=
  (r.evaluatorOfCode store load request.name (request.code.getD 0)).map
    (·.map fun e => e.score request.values)

/-- The evaluator that stands for a reload and nothing else. -/
def reloadAlone (r : Ranker) (store : Store) (load : Load) : Reply (Except Failure Evaluator) :=
  r.evaluator store load (Request.plain "" .reloadOnly)

end Ranker

end EnumOrdering
