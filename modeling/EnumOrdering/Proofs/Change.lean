import EnumOrdering.Proofs.Course
import EnumOrdering.Proofs.Handler
import EnumOrdering.Session

/-!
# What an action changes

Whatever is asked of a ranker, its store ends up in one of three ways: it stays as
it is, a failed reload is counted, or a set of enumerations is put in place. Which
way it is depends on the action and on what the source gives, never on the store,
so the changes of a run can be listed before it is run.
-/

namespace EnumOrdering

/-- What can become of a store in one step. -/
inductive Change
  | none
  | failed (e : Failure)
  | installed (enumerations : EnumerationSet)

namespace Change

/-- The set that a change puts in place. -/
def installed? : Change → Option EnumerationSet
  | none => Option.none
  | failed _ => Option.none
  | installed enumerations => some enumerations

end Change

/-- A store after a change. -/
def Store.apply (s : Store) : Change → Store
  | .none => s
  | .failed e => s.fail e
  | .installed enumerations => s.install enumerations

/-- What a load does to the store that asked for it. -/
def Load.change (load : Load) : Change :=
  match load.outcome with
  | .error e => .failed e
  | .ok enumerations => .installed enumerations

/-- What a request does to the store, when the source gives `load`. -/
def Request.change (request : Request) (load : Load) : Change :=
  if request.operation.reloads then load.change else .none

/-- The request of a score request, unless its number is no operation. -/
def ScoreRequest.request (mark : String) (q : ScoreRequest) : Except Failure Request :=
  (Operation.ofCode (q.code.getD 0)).map (Request.ofName mark q.name)

/-- The request that a handler makes of the ranker, if it makes one. -/
def Http.Handler.request? (mark : String) : Http.Handler → Option Request
  | .score q => (q.request mark).toOption
  | .reload => some (Request.plain "" .reloadOnly)
  | .status => none
  | .enumerations => none
  | .refusal _ => none

namespace Ranker

/-- The request for an evaluator that an action makes, if it makes one. -/
def request? (r : Ranker) : Action → Option Request
  | .parse name token => (Request.parse r.reloadMark name token).toOption
  | .request request => some request
  | .call call => call.handler.request? r.reloadMark
  | .reload => none
  | .replace _ => none
  | .snapshot => none
  | .report => none

/-- What an action does to the store, when the source gives `load`. -/
def change (r : Ranker) (load : Load) (action : Action) : Change :=
  match action with
  | .replace enumerations => .installed enumerations
  | .reload => load.change
  | action => (r.request? action).elim .none (·.change load)

variable {r : Ranker} {store : Store} {load : Load}

theorem reload_store {source : String} :
    (store.reload source load).store = store.apply load.change := by
  rw [Load.change]
  cases h : load.outcome with
  | error e => rw [reload_of_error h]; rfl
  | ok enumerations => rw [reload_of_ok h]; rfl

theorem evaluator_store (request : Request) :
    (r.evaluator store load request).store = store.apply (request.change load) := by
  rw [Request.change]
  cases hr : request.operation.reloads with
  | false => rw [evaluator_of_not_reloads store load hr]; rfl
  | true =>
      rw [if_pos rfl, Load.change]
      cases h : load.outcome with
      | error e => rw [evaluator_of_load_error hr h]; rfl
      | ok enumerations => rw [evaluator_of_load_ok hr h]; rfl

/-- A score request asks for the evaluator of its request. -/
theorem evaluatorOfCode_eq (q : ScoreRequest) :
    r.evaluatorOfCode store load q.name (q.code.getD 0) =
      match q.request r.reloadMark with
      | .error e => ⟨0, store, .error e, []⟩
      | .ok request => r.evaluator store load request := by
  rw [evaluatorOfCode, ScoreRequest.request]
  cases Operation.ofCode (q.code.getD 0) <;> rfl

theorem score_store (q : ScoreRequest) :
    (r.score store load q).store =
      store.apply ((q.request r.reloadMark).toOption.elim .none (·.change load)) := by
  rw [score, Reply.map, evaluatorOfCode_eq]
  cases q.request r.reloadMark with
  | error e => rfl
  | ok request => exact evaluator_store request

theorem handler_store (call : Http.Call) (handler : Http.Handler) :
    (handler.reply r store load call).store =
      store.apply ((handler.request? r.reloadMark).elim .none (·.change load)) := by
  cases handler with
  | score q => exact score_store q
  | reload => exact evaluator_store _
  | status => rfl
  | enumerations => rfl
  | refusal response => rfl

/-- The store after an action is the store before it with the action's change. -/
theorem perform_store (action : Action) :
    (r.perform store load action).store = store.apply (r.change load action) := by
  cases action with
  | parse name token =>
      simp only [perform, Reply.map, change, request?]
      cases hp : Request.parse r.reloadMark name token with
      | error e => rw [parse_of_error store load hp]; rfl
      | ok request =>
          rw [parse_of_denotes store load (Request.parse_eq_ok_iff.mp hp)]
          exact evaluator_store request
  | request request => exact evaluator_store request
  | reload => exact reload_store
  | replace enumerations => rfl
  | snapshot => rfl
  | report => rfl
  | call call =>
      simp only [perform, Reply.map, Http.respond_eq_reply]
      exact handler_store call call.handler

/-- The sets that a run puts in place, in their order. -/
def installed (r : Ranker) (run : List (Action × Load)) : List EnumerationSet :=
  run.filterMap fun p => (r.change p.2 p.1).installed?

theorem installed_append (run run' : List (Action × Load)) :
    r.installed (run ++ run') = r.installed run ++ r.installed run' :=
  List.filterMap_append

theorem finalStore_cons (action : Action) (run : List (Action × Load)) :
    r.finalStore store ((action, load) :: run) =
      r.finalStore (store.apply (r.change load action)) run := by
  rw [← perform_store]
  rfl

theorem finalStore_append (run run' : List (Action × Load)) :
    r.finalStore store (run ++ run') = r.finalStore (r.finalStore store run) run' :=
  List.foldl_append

/-- The reply at a position of a run comes from the store after what stands before. -/
theorem run_getElem? (run : List (Action × Load)) (i : Nat) :
    (r.run store run)[i]? =
      run[i]?.map fun p => r.perform (r.finalStore store (run.take i)) p.2 p.1 := by
  induction run generalizing store i with
  | nil => rfl
  | cons p run ih =>
      obtain ⟨action, load⟩ := p
      cases i with
      | zero => rfl
      | succ i =>
          rw [Ranker.run, List.getElem?_cons_succ, ih, List.getElem?_cons_succ,
            List.take_succ_cons, finalStore_cons, perform_store]

end Ranker

end EnumOrdering
