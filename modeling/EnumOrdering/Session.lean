import EnumOrdering.Http.Router

/-!
# Sessions

Everything that can be asked of a ranker and its store, one action at a time,
and runs of such actions. A run lists with each action what the source would give
to a load at that time.
-/

namespace EnumOrdering

/-- Something asked of a ranker. -/
inductive Action
  /-- An evaluator for a name and the token of an operation. -/
  | parse (name : String) (token : Option String)
  /-- An evaluator for a request. -/
  | request (request : Request)
  /-- A reload. -/
  | reload
  /-- Enumerations to put in place of those in use. -/
  | replace (enumerations : EnumerationSet)
  /-- The snapshot in use. -/
  | snapshot
  /-- The report. -/
  | report
  /-- A call of the HTTP interface. -/
  | call (call : Http.Call)

/-- What an action is answered with. -/
inductive Answer
  | evaluator (outcome : Except Failure Evaluator)
  | snapshot (outcome : Except Failure Snapshot)
  | report (r : Report)
  | response (r : Http.Response)

namespace Ranker

/-- Puts enumerations in place. -/
def replace (store : Store) (enumerations : EnumerationSet) : Reply Snapshot :=
  let store := store.install enumerations
  ⟨0, store, store.current, []⟩

/-- Answers an action. -/
def perform (r : Ranker) (store : Store) (load : Load) : Action → Reply Answer
  | .parse name token => (r.parse store load name token).map .evaluator
  | .request request => (r.evaluator store load request).map .evaluator
  | .reload => (r.reload store load).map .snapshot
  | .replace enumerations => (replace store enumerations).map fun s => .snapshot (.ok s)
  | .snapshot => ⟨0, store, .snapshot (.ok store.current), []⟩
  | .report => ⟨0, store, .report (r.report store), []⟩
  | .call call => (Http.respond r store load call).map .response

/-- The replies to actions one after the other. -/
def run (r : Ranker) : Store → List (Action × Load) → List (Reply Answer)
  | _, [] => []
  | store, (action, load) :: rest =>
    let reply := r.perform store load action
    reply :: r.run reply.store rest

/-- The store after a run. -/
def finalStore (r : Ranker) (store : Store) (actions : List (Action × Load)) : Store :=
  actions.foldl (fun store p => (r.perform store p.2 p.1).store) store

end Ranker

end EnumOrdering
