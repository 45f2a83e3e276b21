import EnumOrdering.Evaluator
import EnumOrdering.Request
import EnumOrdering.Store

/-!
# Rankers

A ranker answers requests from a store: it reloads where the request says so, and
binds an evaluator to the very snapshot that this reload put in place, or to the
one in use. What the source would give to a load is an argument of every answer;
the reply says whether it was asked for.
-/

namespace EnumOrdering

/-- What is fixed when a ranker is set up. -/
structure Ranker where
  /-- Where the enumerations come from. -/
  source : String
  policy : Policy
  absentMode : AbsentMode
  reloadMark : String
deriving Repr, DecidableEq

namespace Ranker

/-- An evaluator that stands for a reload. -/
def noop (r : Ranker) (generation : UInt64) : Evaluator :=
  ⟨.reload generation, .noop, r.policy, r.absentMode⟩

/-- An evaluator of an enumeration. -/
def lookup (r : Ranker) (name : String) (generation : UInt64) (m : Mapping) : Evaluator :=
  ⟨.field name generation, .lookup m, r.policy, r.absentMode⟩

/-- The evaluator that a request gets from a snapshot. -/
def resolve (r : Ranker) (snapshot : Snapshot) (request : Request) :
    Except Failure Evaluator × List Event :=
  if request.operation = .reloadOnly then (.ok (r.noop snapshot.generation), [])
  else
    match snapshot.enumerations.get? request.name with
    | some m =>
      (.ok (r.lookup request.name snapshot.generation m),
        [.resolved request.name snapshot.generation request.operation])
    | none =>
      if request.marked then (.ok (r.noop snapshot.generation), [.markedUnknown request.name])
      else (.error (.unknownEnumeration request.name), [])

/-- Reloads the store. -/
def reload (r : Ranker) (store : Store) (load : Load) : Reply (Except Failure Snapshot) :=
  store.reload r.source load

/-- Answers a request. -/
def evaluator (r : Ranker) (store : Store) (load : Load) (request : Request) :
    Reply (Except Failure Evaluator) :=
  if request.operation.reloads then
    let reloaded := r.reload store load
    match reloaded.answer with
    | .error e => ⟨reloaded.loads, reloaded.store, .error e, reloaded.events⟩
    | .ok snapshot =>
      let resolved := r.resolve snapshot request
      ⟨reloaded.loads, reloaded.store, resolved.1, reloaded.events ++ resolved.2⟩
  else
    let resolved := r.resolve store.current request
    ⟨0, store, resolved.1, resolved.2⟩

/-- Answers a request given as a name and the token of an operation. -/
def parse (r : Ranker) (store : Store) (load : Load) (name : String) (token : Option String) :
    Reply (Except Failure Evaluator) :=
  match Request.parse r.reloadMark name token with
  | .error e => ⟨0, store, .error e, []⟩
  | .ok request => r.evaluator store load request

/-- The report of the store, with where its enumerations come from. -/
def report (r : Ranker) (store : Store) : Report := { store.report with source := r.source }

end Ranker

end EnumOrdering
